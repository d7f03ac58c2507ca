import AdapterGen.Proofs.Decoder.TypeText

/-!
# Types and the text of their handles

The text of a type expression determines the type up to wildcards. It calls the
helper class when the type has type arguments below its array levels.

## Implementation notes

Two class literals and calls may overlap as texts, as when a class is named like
a method of the helper. The texts are therefore read as code: what is read has the
expression as its value, and the expression gives the type back.

-/

namespace AdapterGen

namespace TypeDescriptor

mutual

/-- The type with its upper bound in the place of every wildcard, at any depth. -/
def withoutWildcards : TypeDescriptor → TypeDescriptor
  | primitive kind => primitive kind
  | boxed kind => boxed kind
  | string => string
  | reference name args => reference name (allWithoutWildcards args)
  | wildcard bound => withoutWildcards bound
  | array component => array (withoutWildcards component)

/-- The types with the upper bounds in the place of wildcards. -/
def allWithoutWildcards : List TypeDescriptor → List TypeDescriptor
  | [] => []
  | type :: types => withoutWildcards type :: allWithoutWildcards types

end

/-- The type below its array levels. -/
def elementType : TypeDescriptor → TypeDescriptor
  | array component => elementType component
  | other => other

end TypeDescriptor

namespace TypeExpr

open TypeDescriptor (WellFormed isNameChar ofName ofName_of_reserved ofName_of_isReference Reserved)

/-! ### Depth -/

theorem depth_arrayLevel (component : TypeExpr) : component.arrayLevel.depth = component.depth := by
  cases component <;> rfl

mutual

theorem depth_ofType : ∀ type : TypeDescriptor, (ofType type).depth = type.depth
  | .primitive _ | .boxed _ | .string => rfl
  | .reference _ [] => rfl
  | .reference _ (arg :: args) => congrArg (1 + ·) (maxDepth_ofTypes (arg :: args))
  | .wildcard bound => depth_ofType bound
  | .array component => by
      rw [ofType, depth_arrayLevel, depth_ofType component]
      rfl

theorem maxDepth_ofTypes : ∀ types : List TypeDescriptor,
    maxDepth (ofTypes types) = TypeDescriptor.maxDepth types
  | [] => rfl
  | type :: types => by
      rw [ofTypes, maxDepth, depth_ofType type, maxDepth_ofTypes types]
      rfl

end

/-! ### The type of an expression -/

/-- The type that a class literal names, from the characters of its text read backwards. -/
def typeOfReversed : List Char → TypeDescriptor
  | ']' :: '[' :: rest => .array (typeOfReversed rest)
  | name => ofName (String.ofList name.reverse)

mutual

/-- The type that an expression yields the handle of. -/
def toType : TypeExpr → TypeDescriptor
  | classLiteral text => typeOfReversed text.toList.reverse
  | parameterized raw args => .reference raw (toTypes args)
  | arrayOf component => .array (toType component)

/-- The types that expressions yield the handles of. -/
def toTypes : List TypeExpr → List TypeDescriptor
  | [] => []
  | arg :: args => toType arg :: toTypes args

end

theorem toType_arrayLevel (component : TypeExpr) :
    component.arrayLevel.toType = .array component.toType := by
  cases component with
  | classLiteral text => simp [arrayLevel, toType, typeOfReversed]
  | parameterized | arrayOf => rfl

/-- A literal without brackets is of the type that its text names. -/
theorem toType_classLiteral {name : String}
    (nameChars : ∀ c ∈ name.toList, isNameChar c = true) :
    (classLiteral name).toType = ofName name := by
  have noBracket : ']' ∉ name.toList := fun found =>
    Bool.noConfusion (show false = true from nameChars _ found)
  rw [toType, typeOfReversed]
  · rw [List.reverse_reverse, String.ofList_toList]
  · intro rest shape
    have last : ']' ∈ name.toList.reverse := shape ▸ List.mem_cons_self
    exact noBracket (List.mem_reverse.mp last)

theorem toTypes_ofTypes {types : List TypeDescriptor}
    (same : ∀ type ∈ types, (ofType type).toType = type.withoutWildcards) :
    toTypes (ofTypes types) = TypeDescriptor.allWithoutWildcards types := by
  induction types with
  | nil => rfl
  | cons type types ih =>
      obtain ⟨first, others⟩ := List.forall_mem_cons.mp same
      rw [ofTypes, toTypes, first, ih others]
      rfl

/-- The expression of a type gives the type back, up to its wildcards. -/
theorem toType_ofType {isArgument : Bool} {type : TypeDescriptor}
    (wellFormed : WellFormed isArgument type) :
    (ofType type).toType = type.withoutWildcards := by
  have reserved {name : String} {type : TypeDescriptor} (isReserved : Reserved name type)
      (nameChars : ∀ c ∈ name.toList, isNameChar c = true) :
      (classLiteral name).toType = type := by
    rw [toType_classLiteral nameChars, ofName_of_reserved isReserved]
  induction wellFormed with
  | primitive kind =>
      exact reserved (.keyword kind) (by cases kind <;> exact List.all_eq_true.mp rfl)
  | boxed kind =>
      exact reserved (.wrapper kind) (by cases kind <;> exact List.all_eq_true.mp rfl)
  | string => exact reserved .string (List.all_eq_true.mp rfl)
  | @reference _ name args valid _ ih =>
      cases args with
      | nil =>
          calc
            (classLiteral name).toType = ofName name := toType_classLiteral valid.nameChars
            _ = .reference name [] := ofName_of_isReference valid.isReference
      | cons arg args => exact congrArg (TypeDescriptor.reference name) (toTypes_ofTypes ih)
  | wildcard _ ih => exact ih
  | array _ ih =>
      rw [ofType, toType_arrayLevel, ih]
      rfl

mutual

/-- A wildcard has the expression of its bound. -/
theorem ofType_withoutWildcards : ∀ type : TypeDescriptor,
    ofType type.withoutWildcards = ofType type
  | .primitive _ | .boxed _ | .string => rfl
  | .reference _ [] => rfl
  | .reference name (arg :: args) =>
      congrArg (parameterized name) (ofTypes_allWithoutWildcards (arg :: args))
  | .wildcard bound => ofType_withoutWildcards bound
  | .array component => congrArg arrayLevel (ofType_withoutWildcards component)

theorem ofTypes_allWithoutWildcards : ∀ types : List TypeDescriptor,
    ofTypes (TypeDescriptor.allWithoutWildcards types) = ofTypes types
  | [] => rfl
  | type :: types => by
      rw [TypeDescriptor.allWithoutWildcards, ofTypes, ofType_withoutWildcards type,
        ofTypes_allWithoutWildcards types, ofTypes]

end

end TypeExpr

/-! ### The expression of a text -/

namespace Java

/-- A text spells one expression at most. -/
theorem Writes.unique {text : String} {e f : Expr} (left : Writes text e)
    (right : Writes text f) : e = f := by
  obtain ⟨ts, spells, reads⟩ := left
  obtain ⟨us, spellsAlso, readsAlso⟩ := right
  -- A semicolon ends the expression, for the scan and for the reader.
  have ending : scan? .between [';'] = some ([.sign ';'], .between) := by decide
  have breaks : Breaks [';'] := ⟨';', [], rfl, by decide⟩
  have scanned := spells _ _ _ breaks ending
  have scannedAlso := spellsAlso _ _ _ breaks ending
  have sameTokens := (Prod.mk.inj (Option.some.inj (scanned.symm.trans scannedAlso))).1
  obtain rfl := List.append_cancel_right sameTokens
  have begins : Begins endsExpr [.sign ';'] := begins_cons rfl []
  have read := reads _ _ (Nat.le_refl _) begins
  have readAlso := readsAlso _ _ (Nat.le_refl _) begins
  exact (Prod.mk.inj (Option.some.inj (read.symm.trans readAlso))).1

/-- The value of the code is the type expression, whatever world it runs in. -/
theorem ofTypeExpr_injective : Function.Injective ofTypeExpr := by
  intro e f same
  let world : World Unit Unit Unit :=
    ⟨fun _ => "", fun _ _ => .ok none, fun _ a => a, fun _ _ => .ok none⟩
  have value (e : TypeExpr) : eval world (fun _ => none) (ofTypeExpr e) .ended =
      .ok (.handle e, .ended) := eval_ofTypeExpr world rfl _ e
  have sameValue := (value e).symm.trans (same ▸ value f)
  exact Value.handle.inj (Prod.mk.inj (Except.ok.inj sameValue)).1

/-- Expressions that name their classes have different texts. -/
theorem Named.eq_of_render_eq {e f : TypeExpr} (left : Named e) (right : Named f)
    (same : e.render = f.render) : e = f :=
  ofTypeExpr_injective (left.writes.unique (same ▸ right.writes))

end Java

namespace TypeExpr

open TypeDescriptor (WellFormed parse wellFormed_of_parse)

/-! ### Calls of the helper class -/

theorem usesHelper_arrayLevel (component : TypeExpr) :
    component.arrayLevel.usesHelper = component.usesHelper := by
  cases component <;> rfl

theorem usesHelper_ofType : ∀ type : TypeDescriptor,
    (ofType type).usesHelper = type.withoutWildcards.elementType.isParameterized
  | .primitive _ | .boxed _ | .string => rfl
  | .reference _ [] => rfl
  | .reference _ (_ :: _) => rfl
  | .wildcard bound => usesHelper_ofType bound
  | .array component => by
      rw [ofType, usesHelper_arrayLevel, usesHelper_ofType component]
      rfl

/-- The text calls a method of the helper class somewhere. -/
def CallsHelper (text : String) : Prop :=
  "Types.newParameterizedType(".toList <:+: text.toList ∨
    "Types.arrayOf(".toList <:+: text.toList

theorem callsHelper_of_usesHelper {expr : TypeExpr} (uses : expr.usesHelper = true) :
    CallsHelper expr.render := by
  cases expr with
  | classLiteral text => contradiction
  | parameterized raw args =>
      refine .inl (List.IsPrefix.isInfix ⟨(raw ++ ".class" ++ renderRest args ++ ")").toList, ?_⟩)
      rw [render_parameterized]
      simp
  | arrayOf component =>
      refine .inr (List.IsPrefix.isInfix ⟨(component.render ++ ")").toList, ?_⟩)
      rw [render_arrayOf]
      simp

/-- No parenthesis stands in the class literal of a well-formed type. -/
theorem no_parenthesis_in_literal {isArgument : Bool} {type : TypeDescriptor} {text : String}
    (wellFormed : WellFormed isArgument type) (isLiteral : ofType type = classLiteral text) :
    '(' ∉ text.toList := by
  induction wellFormed generalizing text with
  | primitive kind =>
      obtain rfl := classLiteral.inj isLiteral
      cases kind <;> decide
  | boxed kind =>
      obtain rfl := classLiteral.inj isLiteral
      cases kind <;> decide
  | string =>
      obtain rfl := classLiteral.inj isLiteral
      decide
  | @reference _ name args valid =>
      cases args with
      | nil =>
          obtain rfl := classLiteral.inj isLiteral
          exact fun found => Bool.noConfusion (show false = true from valid.nameChars _ found)
      | cons => contradiction
  | wildcard _ ih => exact ih isLiteral
  | @array _ component _ ih =>
      rw [ofType] at isLiteral
      cases inner : ofType component with
      | classLiteral literal =>
          rw [inner] at isLiteral
          obtain rfl := classLiteral.inj isLiteral
          have := ih inner
          simp [this]
      | parameterized | arrayOf =>
          rw [inner] at isLiteral
          contradiction

theorem callsHelper_render_iff {isArgument : Bool} {type : TypeDescriptor}
    (wellFormed : WellFormed isArgument type) :
    CallsHelper (ofType type).render ↔ (ofType type).usesHelper = true := by
  refine ⟨fun calls => ?_, callsHelper_of_usesHelper⟩
  cases isLiteral : ofType type with
  | classLiteral text =>
      have noText := no_parenthesis_in_literal wellFormed isLiteral
      have noCall : '(' ∉ (classLiteral text).render.toList := by
        rw [render_classLiteral]
        simp [noText]
      rw [isLiteral] at calls
      rcases calls with call | call
      · exact absurd (call.subset (by decide)) noCall
      · exact absurd (call.subset (by decide)) noCall
  | parameterized | arrayOf => rfl

/-- The text of a type's handle determines the type up to wildcards, and nothing less. The nesting
depth is that of the type. The helper class is called when the type has type arguments below its
array levels, with bounds in the place of wildcards. -/
theorem handle_text_determines_type :
    (∀ type : TypeDescriptor, (ofType type).depth = type.depth) ∧
    (∀ (left right : String) (t u : TypeDescriptor), parse left = .ok t → parse right = .ok u →
      ((ofType t).render = (ofType u).render ↔ t.withoutWildcards = u.withoutWildcards)) ∧
    (∀ type : TypeDescriptor, (ofType type).usesHelper = true ↔
      type.withoutWildcards.elementType.isParameterized = true) ∧
    (∀ (input : String) (type : TypeDescriptor), parse input = .ok type →
      ((ofType type).usesHelper = true ↔ CallsHelper (ofType type).render)) := by
  refine ⟨depth_ofType, ?_, fun type => by rw [usesHelper_ofType], ?_⟩
  · intro left right t u readLeft readRight
    have wellFormedLeft := wellFormed_of_parse readLeft
    have wellFormedRight := wellFormed_of_parse readRight
    constructor
    · intro sameText
      have sameExpr := (Java.named_ofType wellFormedLeft).eq_of_render_eq
        (Java.named_ofType wellFormedRight) sameText
      calc
        t.withoutWildcards = (ofType t).toType := (toType_ofType wellFormedLeft).symm
        _ = (ofType u).toType := congrArg toType sameExpr
        _ = u.withoutWildcards := toType_ofType wellFormedRight
    · intro sameType
      calc
        (ofType t).render = (ofType t.withoutWildcards).render := by rw [ofType_withoutWildcards]
        _ = (ofType u.withoutWildcards).render := by rw [sameType]
        _ = (ofType u).render := by rw [ofType_withoutWildcards]
  · intro input type read
    exact (callsHelper_render_iff (wellFormed_of_parse read)).symm

end TypeExpr

end AdapterGen
