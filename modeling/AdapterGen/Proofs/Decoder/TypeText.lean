import AdapterGen.Proofs.Decoder.Locals
import AdapterGen.Proofs.Java.Run
import AdapterGen.Proofs.TypeDescriptor.RoundTrip

/-!
# Types in the text of a decoder

A decoder writes a type twice: as the declared type of a local, and as the
expression that yields its reflective handle. Both texts are scanned and read,
and the expression gives the handle.
-/

namespace AdapterGen

namespace Java

open TypeDescriptor (IsClassName WellFormed)

/-- The segments of a class name are words. -/
theorem isWord_of_isClassName {name : String} (valid : IsClassName name) :
    ∀ w ∈ Text.splitAt '.' name, IsWord w := by
  have noneEmpty : [] ∉ Text.segments '.' name.toList := by
    have accepted := TypeDescriptor.isTypeName_iff.mpr valid.toIsName
    simp only [TypeDescriptor.isTypeName, Bool.and_eq_true] at accepted
    simpa using accepted.2
  intro w found
  obtain ⟨piece, isPiece, rfl⟩ := List.mem_map.mp found
  refine ⟨fun empty => ?_, fun c inPiece => ?_⟩
  · obtain rfl : piece = [] := by simpa using empty
    exact noneEmpty isPiece
  · rw [String.toList_ofList] at inPiece
    obtain ⟨inName, noDot⟩ := Text.mem_of_mem_segments isPiece inPiece
    exact isWordChar_of_isNameChar (valid.nameChars c inName) noDot

theorem spells_className {name : String} (valid : IsClassName name) :
    Spells name (pathTokens (Text.splitAt '.' name)) := by
  have spells := spells_path (Text.splitAt_ne_nil '.' name) (isWord_of_isClassName valid)
  rwa [Text.join_splitAt] at spells

/-! ### Declared types -/

/-- A text that is scanned as the tokens of a type. -/
def SpellsType (text : String) : Prop :=
  ∃ ts last, Spells text (ts ++ [last]) ∧ (∀ t ∈ ts ++ [last], isTypeToken t = true) ∧
    last ≠ .sign '.'

theorem SpellsType.word {text : String} (isWord : IsWord text) : SpellsType text :=
  ⟨[], .word text, isWord.spells, by simp [isTypeToken], by simp⟩

theorem exists_pathTokens_eq_concat {path : List String} (nonempty : path ≠ []) :
    ∃ ts w, pathTokens path = ts ++ [Token.word w] := by
  induction path with
  | nil => exact absurd rfl nonempty
  | cons w ws ih =>
      cases ws with
      | nil => exact ⟨[], w, rfl⟩
      | cons next ws =>
          obtain ⟨ts, v, shape⟩ := ih (by simp)
          exact ⟨.word w :: .sign '.' :: ts, v, by simp [pathTokens, shape]⟩

theorem SpellsType.className {name : String} (valid : IsClassName name) : SpellsType name := by
  obtain ⟨ts, w, shape⟩ := exists_pathTokens_eq_concat (Text.splitAt_ne_nil '.' name)
  refine ⟨ts, .word w, shape ▸ spells_className valid, ?_, by simp⟩
  rw [← shape]
  exact isTypeToken_of_mem_pathTokens

/-- The text of arguments, up to and with the closing angle bracket. -/
theorem closed_arguments {arg : TypeDescriptor} {args : List TypeDescriptor}
    (spelled : ∀ type ∈ arg :: args, SpellsType type.render) :
    ∃ ts, Closed (arg.render ++ (TypeDescriptor.renderRest args ++ ">")) (ts ++ [Token.sign '>']) ∧
      ∀ t ∈ ts, isTypeToken t = true := by
  induction args generalizing arg with
  | nil =>
      obtain ⟨ts, last, spells, areTypes, -⟩ := spelled arg (by simp)
      have closing : Closed ">" [.sign '>'] := by decide
      refine ⟨ts ++ [last], ?_, areTypes⟩
      simpa [TypeDescriptor.renderRest] using
        spells.append_closed closing (breaks_of_head (by decide))
  | cons next args ih =>
      obtain ⟨ts, last, spells, areTypes, -⟩ := spelled arg (by simp)
      obtain ⟨us, closed, alsoTypes⟩ := ih (List.forall_mem_cons.mp spelled).2
      have comma : Closed ", " [.sign ','] := by decide
      have others := comma.append closed
      have breaks :
          Breaks (", " ++ (next.render ++ (TypeDescriptor.renderRest args ++ ">"))).toList := by
        rw [String.toList_append]
        exact (breaks_of_head (by decide)).append _
      refine ⟨ts ++ [last] ++ Token.sign ',' :: us, ?_, ?_⟩
      · simpa [TypeDescriptor.renderRest, String.append_assoc] using
          spells.append_closed others breaks
      · have isType : isTypeToken (.sign ',') = true := by decide
        exact List.forall_mem_append.mpr ⟨areTypes, List.forall_mem_cons.mpr ⟨isType, alsoTypes⟩⟩

theorem SpellsType.reference {name : String} {args : List TypeDescriptor}
    (valid : IsClassName name) (spelled : ∀ arg ∈ args, SpellsType arg.render) :
    SpellsType (TypeDescriptor.reference name args).render := by
  cases args with
  | nil => exact SpellsType.className valid
  | cons arg args =>
      obtain ⟨ts, closed, areTypes⟩ := closed_arguments spelled
      have opening : Closed "<" [.sign '<'] := by decide
      have whole := (spells_className valid).append_closed (opening.append closed) (by
        rw [String.toList_append]
        exact (breaks_of_head (by decide)).append _)
      have inBrackets : ∀ t ∈ [Token.sign '<'] ++ ts, isTypeToken t = true :=
        List.forall_mem_append.mpr ⟨by decide, areTypes⟩
      refine ⟨pathTokens (Text.splitAt '.' name) ++ Token.sign '<' :: ts, .sign '>', ?_, ?_,
        by decide⟩
      · simpa [TypeDescriptor.render, String.append_assoc] using whole.spells
      · exact List.forall_mem_append.mpr
          ⟨List.forall_mem_append.mpr ⟨isTypeToken_of_mem_pathTokens, inBrackets⟩, by decide⟩

theorem SpellsType.wildcard {bound : TypeDescriptor} (spelled : SpellsType bound.render) :
    SpellsType (TypeDescriptor.wildcard bound).render := by
  unfold TypeDescriptor.render
  split
  · have question : Closed "?" [.sign '?'] := by decide
    exact ⟨[], .sign '?', question.spells, by decide, by decide⟩
  · obtain ⟨ts, last, spells, areTypes, noDot⟩ := spelled
    have opening : Closed "? extends " [.sign '?', .word "extends"] := by decide
    have alsoTypes :
        ∀ t ∈ [Token.sign '?', .word "extends"] ++ (ts ++ [last]), isTypeToken t = true :=
      List.forall_mem_append.mpr ⟨by decide, areTypes⟩
    exact ⟨.sign '?' :: .word "extends" :: ts, last, opening.append_spells spells, alsoTypes, noDot⟩

theorem SpellsType.array {component : TypeDescriptor} (spelled : SpellsType component.render) :
    SpellsType (TypeDescriptor.array component).render := by
  obtain ⟨ts, last, spells, areTypes, -⟩ := spelled
  have brackets : Closed "[]" [.sign '[', .sign ']'] := by decide
  have whole := spells.append_closed brackets (breaks_of_head (by decide))
  have alsoTypes : ∀ t ∈ ts ++ [last] ++ [Token.sign '[', .sign ']'], isTypeToken t = true :=
    List.forall_mem_append.mpr ⟨areTypes, by decide⟩
  refine ⟨ts ++ [last, .sign '['], .sign ']', ?_, ?_, by decide⟩
  · simpa [TypeDescriptor.render] using whole.spells
  · simpa using alsoTypes

/-- A well-formed type is scanned as the tokens of a type. -/
theorem spellsType_render {isArgument : Bool} {type : TypeDescriptor}
    (wellFormed : WellFormed isArgument type) : SpellsType type.render := by
  induction wellFormed with
  | primitive kind => exact .word (by cases kind <;> decide)
  | boxed kind => exact .word (by cases kind <;> decide)
  | string => exact .word (by decide)
  | reference valid _ ih => exact .reference valid ih
  | wildcard _ ih => exact .wildcard ih
  | array _ ih => exact .array ih

/-! ### Class literals -/

/-- Pairs of brackets. -/
def dims : Nat → List Token
  | 0 => []
  | levels + 1 => .sign '[' :: .sign ']' :: dims levels

theorem closed_dims (levels : Nat) : Closed (Text.repeated levels "[]") (dims levels) := by
  induction levels with
  | zero => decide
  | succ levels ih =>
      have brackets : Closed "[]" [.sign '[', .sign ']'] := by decide
      exact brackets.append ih

theorem readDims_dims (levels : Nat) {t : Token} (other : t ≠ .sign '[') (rest : List Token) :
    readDims (dims levels ++ t :: rest) = (levels, t :: rest) := by
  induction levels with
  | zero =>
      simp only [dims, List.nil_append]
      unfold readDims
      split
      · rename_i shape
        exact absurd (List.cons.inj shape).1 other
      · rfl
  | succ levels ih => simp [dims, readDims, ih]

/-- The name of a class, or of an array class with its brackets. -/
def IsClassText (type : String) : Prop :=
  ∃ path levels, path ≠ [] ∧ (∀ w ∈ path, IsWord w) ∧
    type = Text.join "." path ++ Text.repeated levels "[]"

theorem IsClassText.className {name : String} (valid : IsClassName name) : IsClassText name :=
  ⟨Text.splitAt '.' name, 0, Text.splitAt_ne_nil '.' name, isWord_of_isClassName valid,
    by simp [Text.join_splitAt, Text.repeated]⟩

theorem IsClassText.word {type : String} (isWord : IsWord type) : IsClassText type :=
  ⟨[type], 0, by simp, by simpa using isWord, by simp [Text.join, Text.repeated]⟩

theorem IsClassText.array {type : String} (isText : IsClassText type) :
    IsClassText (type ++ "[]") := by
  obtain ⟨path, levels, nonempty, words, rfl⟩ := isText
  refine ⟨path, levels + 1, nonempty, words, ?_⟩
  rw [Text.repeated_add, String.append_assoc]
  rfl

/-- The expression that a text spells, in front of anything that ends an expression. -/
def Writes (text : String) (e : Expr) : Prop := ∃ ts, Spells text ts ∧ ExprReads e ts

/-- The operand that a text spells. -/
def WritesOperand (text : String) (e : Expr) : Prop := ∃ ts, Spells text ts ∧ OperandReads e ts

theorem WritesOperand.writes {text : String} {e : Expr} (written : WritesOperand text e) :
    Writes text e := by
  obtain ⟨ts, spells, reads⟩ := written
  exact ⟨ts, spells, reads.expr⟩

theorem spells_classLiteral {path : List String} (nonempty : path ≠ [])
    (words : ∀ w ∈ path, IsWord w) (levels : Nat) :
    Spells (Text.join "." path ++ Text.repeated levels "[]" ++ ".class")
      (pathTokens path ++ (dims levels ++ [Token.sign '.', .word "class"])) := by
  have dot : Closed "." [.sign '.'] := by decide
  have ending : Spells ".class" [.sign '.', .word "class"] :=
    dot.append_spells (show IsWord "class" by decide).spells
  have back := (closed_dims levels).append_spells ending
  have breaks : Breaks (Text.repeated levels "[]" ++ ".class").toList := by
    cases levels with
    | zero => exact breaks_of_head (by decide)
    | succ levels =>
        rw [Text.repeated, String.append_assoc, String.toList_append]
        exact (breaks_of_head (by decide)).append _
  rw [String.append_assoc]
  exact (spells_path nonempty words).append back breaks

theorem pathTokens_concat {path : List String} (nonempty : path ≠ []) (w : String) :
    pathTokens (path ++ [w]) = pathTokens path ++ [Token.sign '.', .word w] := by
  induction path with
  | nil => exact absurd rfl nonempty
  | cons v path ih =>
      cases path with
      | nil => rfl
      | cons next path => simpa [pathTokens] using ih

theorem ofPath?_class {path : List String} (nonempty : path ≠ []) :
    ofPath? (path ++ ["class"]) = some (.classOf (Text.join "." path)) := by
  have notNull : path ++ ["class"] ≠ ["null"] := by
    intro same
    have last := congrArg List.getLast? same
    simp at last
  have long : 1 < (path ++ ["class"]).length := by
    simpa using List.length_pos_iff.mpr nonempty
  simp [ofPath?, notNull, List.length_pos_iff.mpr nonempty]

theorem operandReads_classLiteral {path : List String} (nonempty : path ≠ []) (levels : Nat) :
    OperandReads (.classOf (Text.join "." path ++ Text.repeated levels "[]"))
      (pathTokens path ++ (dims levels ++ [Token.sign '.', .word "class"])) := by
  cases levels with
  | zero =>
      have reads := OperandReads.ofPath (by simp) (ofPath?_class nonempty)
      rw [pathTokens_concat nonempty] at reads
      simpa [dims, Text.repeated] using reads
  | succ levels =>
      intro fuel rest enough _
      obtain ⟨w, more, shape⟩ := pathTokens_eq_cons nonempty
      obtain ⟨fuel, rfl⟩ : ∃ n, fuel = n + 1 := ⟨fuel - 1, by simp [shape] at enough; omega⟩
      have brackets := readDims_dims (levels + 1) (t := .sign '.') (by simp)
        (.word "class" :: rest)
      rw [List.append_assoc, readOperand?_path nonempty (by simp [EndsPath, dims])]
      simp only [dims, List.cons_append, List.append_assoc, List.nil_append] at brackets ⊢
      simp [followPath?, brackets]

theorem IsClassText.writes {type : String} (isText : IsClassText type) :
    Writes (type ++ ".class") (.classOf type) := by
  obtain ⟨path, levels, nonempty, words, rfl⟩ := isText
  exact ⟨_, spells_classLiteral nonempty words levels,
    (operandReads_classLiteral nonempty levels).expr⟩

/-! ### Type expressions -/

/-- A type expression whose classes are given by their names. -/
inductive Named : TypeExpr → Prop
  | classLiteral {type : String} : IsClassText type → Named (.classLiteral type)
  | parameterized {raw : String} {args : List TypeExpr} :
      IsClassText raw → (∀ arg ∈ args, Named arg) → Named (.parameterized raw args)
  | arrayOf {component : TypeExpr} : Named component → Named (.arrayOf component)

theorem Named.arrayLevel {component : TypeExpr} (named : Named component) :
    Named component.arrayLevel := by
  cases named with
  | classLiteral isText => exact .classLiteral isText.array
  | parameterized isText args => exact .arrayOf (.parameterized isText args)
  | arrayOf inner => exact .arrayOf (.arrayOf inner)

theorem ofTypes_eq_map (types : List TypeDescriptor) :
    TypeExpr.ofTypes types = types.map TypeExpr.ofType := by
  induction types with
  | nil => rfl
  | cons type types ih => simp [TypeExpr.ofTypes, ih]

/-- The type expression of a well-formed type names its classes. -/
theorem named_ofType {isArgument : Bool} {type : TypeDescriptor}
    (wellFormed : WellFormed isArgument type) : Named (TypeExpr.ofType type) := by
  induction wellFormed with
  | primitive kind => exact .classLiteral (.word (by cases kind <;> decide))
  | boxed kind => exact .classLiteral (.word (by cases kind <;> decide))
  | string => exact .classLiteral (.word (by decide))
  | @reference isArgument name args valid _ ih =>
      cases args with
      | nil => exact .classLiteral (.className valid)
      | cons arg args =>
          refine .parameterized (.className valid) ?_
          rw [ofTypes_eq_map, ← List.map_cons]
          exact List.forall_mem_map.mpr ih
  | wildcard _ ih => exact ih
  | array _ ih => exact ih.arrayLevel

mutual

/-- The expression of the language that a type expression is. -/
def ofTypeExpr : TypeExpr → Expr
  | .classLiteral type => .classOf type
  | .parameterized raw args =>
      .call ["Types", "newParameterizedType"] (.classOf raw :: ofTypeExprs args)
  | .arrayOf component => .call ["Types", "arrayOf"] [ofTypeExpr component]

/-- The expressions of the language that type expressions are. -/
def ofTypeExprs : List TypeExpr → List Expr
  | [] => []
  | arg :: args => ofTypeExpr arg :: ofTypeExprs args

end

/-- The text of arguments behind the first, up to and with the closing parenthesis. -/
theorem closed_typeArgs {text : String} {e : Expr} {args : List TypeExpr} (first : Writes text e)
    (others : ∀ arg ∈ args, Writes arg.render (ofTypeExpr arg)) :
    ∃ ts, Closed (text ++ (TypeExpr.renderRest args ++ ")")) ts ∧
      ArgsRead (e :: ofTypeExprs args) ts := by
  induction args generalizing text e with
  | nil =>
      obtain ⟨ts, spells, reads⟩ := first
      have closing : Closed ")" [.sign ')'] := by decide
      refine ⟨ts ++ [Token.sign ')'], ?_, by simpa [ofTypeExprs] using ArgsRead.one reads⟩
      have whole := spells.append_closed closing (breaks_of_head (by decide))
      simpa [TypeExpr.renderRest_nil] using whole
  | cons arg args ih =>
      obtain ⟨ts, spells, reads⟩ := first
      obtain ⟨writesArg, others⟩ := List.forall_mem_cons.mp others
      obtain ⟨us, closed, read⟩ := ih writesArg others
      have comma : Closed ", " [.sign ','] := by decide
      have breaks : Breaks (", " ++ (arg.render ++ (TypeExpr.renderRest args ++ ")"))).toList := by
        rw [String.toList_append]
        exact (breaks_of_head (by decide)).append _
      refine ⟨ts ++ Token.sign ',' :: us, ?_, ArgsRead.more reads read (by simp [ofTypeExprs])⟩
      simpa [TypeExpr.renderRest_cons, String.append_assoc] using
        spells.append_closed (comma.append closed) breaks

/-- A call of a method of something named, up to its arguments and their parenthesis. -/
theorem WritesOperand.call {owner method opening rest : String} {args : List Expr}
    {ts : List Token} (isOwner : IsIdentifier owner) (isMethod : IsWord method)
    (shape : owner ++ "." ++ method ++ "(" = opening) (closed : Closed rest ts)
    (read : ArgsRead args ts) : WritesOperand (opening ++ rest) (.call [owner, method] args) := by
  subst shape
  have dot : Closed "." [.sign '.'] := by decide
  have parenthesis : Closed "(" [.sign '('] := by decide
  have callee := (isOwner.spells.append_closed dot (breaks_of_head (by decide))).append_spells
    isMethod.spells
  have whole := (callee.append_closed parenthesis (breaks_of_head (by decide))).append closed
  have reads := OperandReads.call (List.cons_ne_nil _ _) (beginsReserved_cons isOwner.free [method])
    read
  exact ⟨_, whole.spells, by simpa [pathTokens] using reads⟩

/-- The text of a type expression spells its expression. -/
theorem Named.writes {e : TypeExpr} (named : Named e) : Writes e.render (ofTypeExpr e) := by
  have isTypes : IsIdentifier "Types" :=
    Emission.isIdentifier_of_mem_reservedLocals _ (by simp [Emission.reservedLocals])
  induction named with
  | classLiteral isText => exact isText.writes
  | parameterized isText _ ih =>
      obtain ⟨ts, closed, read⟩ := closed_typeArgs isText.writes ih
      have whole := (WritesOperand.call isTypes (show IsWord "newParameterizedType" by decide)
        rfl closed read).writes
      simp only [String.append_assoc] at whole
      simp only [TypeExpr.render_parameterized, ofTypeExpr, String.append_assoc]
      exact whole
  | arrayOf _ ih =>
      have noOthers : ∀ arg ∈ ([] : List TypeExpr), Writes arg.render (ofTypeExpr arg) := by simp
      obtain ⟨ts, closed, read⟩ := closed_typeArgs ih noOthers
      have whole := (WritesOperand.call isTypes (show IsWord "arrayOf" by decide) rfl closed
        read).writes
      rw [TypeExpr.renderRest_nil, String.empty_append, ofTypeExprs] at whole
      rw [TypeExpr.render_arrayOf, ofTypeExpr, String.append_assoc]
      exact whole

section

variable {J α ε : Type} (world : World J α ε) {scope : Locals α}

theorem handles?_map (types : List TypeExpr) :
    handles? (types.map fun type => (.handle type : Value α)) = some types := by
  induction types with
  | nil => rfl
  | cons type types ih => simp [handles?, ih]

mutual

/-- The expression of a type expression has it as its value. -/
theorem eval_ofTypeExpr (free : scope "Types" = none) (cursor : Cursor J) :
    ∀ e : TypeExpr, eval world scope (ofTypeExpr e) cursor = .ok (.handle e, cursor)
  | .classLiteral _ => rfl
  | .parameterized raw args => by
      have raw : eval world scope (.classOf raw) cursor =
          .ok (.handle (.classLiteral raw), cursor) := rfl
      rw [ofTypeExpr, eval_call _ (evalAll_cons raw (evalAll_ofTypeExprs free cursor args)),
        callPath_class free]
      simp [callStatic, handles?, handles?_map, Except.map]
  | .arrayOf component => by
      rw [ofTypeExpr, eval_call _ (evalAll_one (eval_ofTypeExpr free cursor component)),
        callPath_class free]
      simp [callStatic, Except.map]

theorem evalAll_ofTypeExprs (free : scope "Types" = none) (cursor : Cursor J) :
    ∀ types : List TypeExpr, evalAll world scope (ofTypeExprs types) cursor =
      .ok (types.map fun type => .handle type, cursor)
  | [] => rfl
  | type :: types =>
      evalAll_cons (eval_ofTypeExpr free cursor type) (evalAll_ofTypeExprs free cursor types)

end

end

end Java
end AdapterGen
