import AdapterGen.Proofs.Decoder.Program

/-!
# Locals do not hide classes

A decoder's locals are found by appending underscores to the fields' names. No local is the first
segment of a dotted class name that the decoder's body writes.

## Implementation notes

The package roots are taken from the declared types, while a class is also written in the
expression that yields a type. `mem_nameRuns_render` relates the two texts: a dotted name of the
expression stands in the declared type, or is the class that bounds an unbounded wildcard.
-/

namespace AdapterGen.Emission

open Code
open TypeDescriptor (WellFormed IsClassName isNameChar objectName wellFormed_of_parse)

/-! ### The loop that renames -/

/-- Appending underscores one at a time to a name that is to be avoided. -/
inductive Renames (avoid : List String) : String → String → Prop
  | done {name : String} : name ∉ avoid → Renames avoid name name
  | again {name fresh : String} :
      name ∈ avoid → Renames avoid (name ++ "_") fresh → Renames avoid name fresh

theorem withUnderscores_zero (name : String) : withUnderscores name 0 = name := by
  simp [withUnderscores, Text.repeated]

theorem withUnderscores_succ (name : String) (n : Nat) :
    withUnderscores name (n + 1) = withUnderscores (name ++ "_") n := by
  simp [withUnderscores, Text.repeated, String.append_assoc]

theorem renames_withUnderscores {avoid : List String} {name : String} {n : Nat}
    (free : withUnderscores name n ∉ avoid)
    (avoided : ∀ m < n, withUnderscores name m ∈ avoid) :
    Renames avoid name (withUnderscores name n) := by
  induction n generalizing name with
  | zero =>
      rw [withUnderscores_zero] at free ⊢
      exact .done free
  | succ n ih =>
      have first := avoided 0 (Nat.zero_lt_succ n)
      rw [withUnderscores_zero] at first
      rw [withUnderscores_succ] at free ⊢
      refine .again first (ih free fun m less => ?_)
      rw [← withUnderscores_succ]
      exact avoided (m + 1) (Nat.succ_lt_succ less)

/-- The loop ends with the fresh name. -/
theorem renames_freshName (avoid : List String) (name : String) :
    Renames avoid name (freshName avoid name) := by
  obtain ⟨n, isFresh, free, avoided⟩ := exists_freshName avoid name
  rw [isFresh]
  exact renames_withUnderscores free avoided

/-- The pass over the fields' names, which keeps a name or renames it by the loop. -/
inductive Pass (reserved : List String) : (taken : List String) → List (String × String) →
    List String → List (String × String) → Prop
  | done {taken : List String} {assigned : List (String × String)} :
      Pass reserved taken assigned [] assigned
  | keep {taken : List String} {assigned result : List (String × String)} {name : String}
      {rest : List String} :
      name ∉ reserved → Pass reserved taken ((name, name) :: assigned) rest result →
        Pass reserved taken assigned (name :: rest) result
  | rename {taken : List String} {assigned result : List (String × String)} {name fresh : String}
      {rest : List String} :
      name ∈ reserved → Renames (reserved ++ taken) name fresh →
        Pass reserved (fresh :: taken) ((name, fresh) :: assigned) rest result →
        Pass reserved taken assigned (name :: rest) result

/-- The pass ends with the assigned locals. -/
theorem pass_assignLocals (reserved taken : List String) (assigned : List (String × String))
    (names : List String) :
    Pass reserved taken assigned names (assignLocals reserved taken assigned names) := by
  induction names generalizing taken assigned with
  | nil => exact .done
  | cons name rest ih =>
      unfold assignLocals
      split
      · rename_i isReserved
        exact .rename (by simpa using isReserved) (renames_freshName _ name) (ih _ _)
      · rename_i free
        exact .keep (by simpa using free) (ih _ _)

/-! ### Names in a text -/

/-- A dotted name that stands in a text, with no further name character beside it. -/
structure StandsIn (name text : String) : Prop where
  nameChars : ∀ c ∈ name.toList, isNameChar c = true
  dotted : '.' ∈ name.toList
  apart : ∃ front back, text.toList = front ++ (name.toList ++ back) ∧
    (∀ c ∈ front.getLast?, isNameChar c = false) ∧ ∀ c ∈ back.head?, isNameChar c = false

/-- The first segment of a dotted name. -/
def firstSegment (name : String) : String := String.ofList (name.toList.takeWhile (· != '.'))

/-- The runs of name characters of a text. -/
def nameRuns (text : String) : List (List Char) :=
  Text.segmentsBy (fun c => !isNameChar c) text.toList

theorem StandsIn.mem_nameRuns {name text : String} (stands : StandsIn name text) :
    name.toList ∈ nameRuns text := by
  obtain ⟨nameChars, dotted, front, back, shape, before, behind⟩ := stands
  have alone : Text.segmentsBy (fun c => !isNameChar c) name.toList = [name.toList] :=
    Text.segmentsBy_of_forall fun c found => by simp [nameChars c found]
  -- What is behind the name starts with a separator, if there is anything.
  have opened : name.toList ∈
      Text.segmentsBy (fun c => !isNameChar c) (name.toList ++ back) := by
    cases back with
    | nil => simp [alone]
    | cons c rest =>
        have separates : (!isNameChar c) = true := by simp [behind c rfl]
        rw [Text.segmentsBy_append_cons separates, alone]
        exact List.mem_append_left _ (List.mem_singleton_self _)
  unfold nameRuns
  rw [shape]
  rcases List.eq_nil_or_concat front with rfl | ⟨earlier, c, rfl⟩
  · exact opened
  · have separates : (!isNameChar c) = true := by simp [before c (by simp)]
    rw [List.concat_eq_append, List.append_assoc, List.singleton_append,
      Text.segmentsBy_append_cons separates]
    exact List.mem_append_right _ opened

/-- The first segment of a dotted run is a package root. -/
theorem firstSegment_mem_packageRoots {name text : String} (isRun : name.toList ∈ nameRuns text)
    (dotted : '.' ∈ name.toList) : firstSegment name ∈ packageRoots text :=
  List.mem_map.mpr ⟨name.toList, List.mem_filter.mpr ⟨isRun, by simpa using dotted⟩, rfl⟩

/-- The dotted runs of texts with something else between them. -/
theorem mem_nameRuns_append {run : List Char} (dotted : '.' ∈ run) {seps : String}
    (some : seps ≠ "") (separate : seps.toList.all (!isNameChar ·) = true)
    (front back : String) :
    run ∈ nameRuns (front ++ (seps ++ back)) ↔ run ∈ nameRuns front ∨ run ∈ nameRuns back := by
  have filled : run ≠ [] := List.ne_nil_of_mem dotted
  have separators : ∀ c ∈ seps.toList, (!isNameChar c) = true := List.all_eq_true.mp separate
  unfold nameRuns
  rw [String.toList_append, String.toList_append]
  exact Text.mem_segmentsBy_append (fun empty => some (String.toList_eq_nil_iff.mp empty))
    separators filled _ _

/-! ### Names of types -/

mutual

/-- The texts of the classes that a type expression names. -/
def classTexts : TypeExpr → List String
  | .classLiteral type => [type]
  | .parameterized raw args => raw :: allClassTexts args
  | .arrayOf component => classTexts component

/-- The texts of the classes that type expressions name. -/
def allClassTexts : List TypeExpr → List String
  | [] => []
  | arg :: args => classTexts arg ++ allClassTexts args

end

mutual

/-- The text of a class is written with the literal's suffix. -/
theorem infix_render {text : String} :
    ∀ expr : TypeExpr, text ∈ classTexts expr →
      (text ++ ".class").toList <:+: expr.render.toList
  | .classLiteral type, found => by
      obtain rfl := List.mem_singleton.mp found
      exact List.infix_rfl
  | .parameterized raw args, found => by
      rw [TypeExpr.render_parameterized]
      rcases List.mem_cons.mp found with rfl | later
      · refine ⟨"Types.newParameterizedType(".toList, (TypeExpr.renderRest args ++ ")").toList, ?_⟩
        simp
      · obtain ⟨front, back, shape⟩ := infix_renderRest args later
        refine ⟨("Types.newParameterizedType(" ++ raw ++ ".class").toList ++ front,
          back ++ ")".toList, ?_⟩
        simp [← shape]
  | .arrayOf component, found => by
      obtain ⟨front, back, shape⟩ := infix_render component found
      rw [TypeExpr.render_arrayOf]
      exact ⟨"Types.arrayOf(".toList ++ front, back ++ ")".toList, by simp [← shape]⟩

theorem infix_renderRest {text : String} :
    ∀ args : List TypeExpr, text ∈ allClassTexts args →
      (text ++ ".class").toList <:+: (TypeExpr.renderRest args).toList
  | arg :: args, found => by
      rw [TypeExpr.renderRest_cons]
      rcases List.mem_append.mp found with first | later
      · obtain ⟨front, back, shape⟩ := infix_render arg first
        refine ⟨", ".toList ++ front, back ++ (TypeExpr.renderRest args).toList, ?_⟩
        simp [← shape]
      · obtain ⟨front, back, shape⟩ := infix_renderRest args later
        exact ⟨(", " ++ arg.render).toList ++ front, back, by simp [← shape]⟩

end

theorem exists_of_mem_allClassTexts {text : String} (types : List TypeDescriptor)
    (found : text ∈ allClassTexts (TypeExpr.ofTypes types)) :
    ∃ type ∈ types, text ∈ classTexts (TypeExpr.ofType type) := by
  induction types with
  | nil => simp [TypeExpr.ofTypes, allClassTexts] at found
  | cons type types ih =>
      rcases List.mem_append.mp found with first | later
      · exact ⟨type, List.mem_cons_self, first⟩
      · obtain ⟨other, isOther, inOther⟩ := ih later
        exact ⟨other, List.mem_cons_of_mem _ isOther, inOther⟩

section

variable {run : List Char} (dotted : '.' ∈ run)

include dotted

/-- A run stands in a list of arguments when it stands in one of them. -/
theorem mem_nameRuns_renderRest {args : List TypeDescriptor} {front : String}
    (found : run ∈ nameRuns front ∨ ∃ arg ∈ args, run ∈ nameRuns arg.render) :
    run ∈ nameRuns (front ++ TypeDescriptor.renderRest args) := by
  induction args generalizing front with
  | nil => simpa [TypeDescriptor.renderRest] using found
  | cons arg args ih =>
      rw [TypeDescriptor.renderRest, String.append_assoc,
        mem_nameRuns_append dotted (by decide) (by decide)]
      rcases found with inFront | ⟨other, isArg, inArg⟩
      · exact .inl inFront
      · rcases List.mem_cons.mp isArg with rfl | later
        · exact .inr (ih (.inl inArg))
        · exact .inr (ih (.inr ⟨other, later, inArg⟩))

theorem mem_nameRuns_reference {name : String} {args : List TypeDescriptor}
    (found : run ∈ nameRuns name ∨ ∃ arg ∈ args, run ∈ nameRuns arg.render) :
    run ∈ nameRuns (TypeDescriptor.reference name args).render := by
  cases args with
  | nil => simpa [TypeDescriptor.render] using found
  | cons arg args =>
      have closing (text : String) (inText : run ∈ nameRuns text) :
          run ∈ nameRuns (text ++ (">" ++ "")) :=
        (mem_nameRuns_append dotted (by decide) (by decide) text "").mpr (.inl inText)
      simp only [TypeDescriptor.render, String.append_assoc]
      rw [mem_nameRuns_append dotted (by decide) (by decide)]
      rcases found with inName | ⟨other, isArg, inArg⟩
      · exact .inl inName
      · refine .inr ?_
        rw [← String.append_assoc, ← String.append_empty (s := ">")]
        apply closing
        apply mem_nameRuns_renderRest dotted
        rcases List.mem_cons.mp isArg with rfl | later
        · exact .inl inArg
        · exact .inr ⟨other, later, inArg⟩

/-- Array levels add no names. -/
theorem mem_nameRuns_dims (text : String) :
    run ∈ nameRuns (text ++ "[]") ↔ run ∈ nameRuns text := by
  have none : run ∉ nameRuns "" := by
    intro found
    obtain rfl : run = [] := by simpa [nameRuns, Text.segmentsBy] using found
    simp at dotted
  rw [← String.append_empty (s := "[]"), mem_nameRuns_append dotted (by decide) (by decide)]
  simp [none]

end

theorem exists_of_mem_arrayLevel {run : List Char} (dotted : '.' ∈ run) {expr : TypeExpr}
    {text : String} (found : text ∈ classTexts expr.arrayLevel) (isRun : run ∈ nameRuns text) :
    ∃ other ∈ classTexts expr, run ∈ nameRuns other := by
  cases expr with
  | classLiteral type =>
      obtain rfl := List.mem_singleton.mp found
      exact ⟨type, List.mem_singleton_self type, (mem_nameRuns_dims dotted type).mp isRun⟩
  | parameterized raw args => exact ⟨text, found, isRun⟩
  | arrayOf component => exact ⟨text, found, isRun⟩

/-- A dotted name of the expression that yields a type stands in the type's text, or is the class
that bounds an unbounded wildcard. -/
theorem mem_nameRuns_render {isArgument : Bool} {type : TypeDescriptor}
    (wellFormed : WellFormed isArgument type) {text : String} {run : List Char}
    (dotted : '.' ∈ run) (found : text ∈ classTexts (TypeExpr.ofType type))
    (isRun : run ∈ nameRuns text) :
    run ∈ nameRuns type.render ∨ run = objectName.toList := by
  induction wellFormed generalizing text with
  | primitive kind | boxed kind | string =>
      obtain rfl := List.mem_singleton.mp found
      exact .inl isRun
  | @reference _ name args _ _ ih =>
      cases args with
      | nil =>
          obtain rfl := List.mem_singleton.mp found
          exact .inl isRun
      | cons arg args =>
          rcases List.mem_cons.mp found with rfl | later
          · exact .inl (mem_nameRuns_reference dotted (.inl isRun))
          · obtain ⟨other, isArg, inArg⟩ := exists_of_mem_allClassTexts (arg :: args) later
            refine (ih other isArg inArg isRun).imp_left fun inOther => ?_
            exact mem_nameRuns_reference dotted (.inr ⟨other, isArg, inOther⟩)
  | @wildcard bound _ ih =>
      rcases ih found isRun with inBound | isObject
      · unfold TypeDescriptor.render
        split
        · rename_i unbounded
          have alone : nameRuns TypeDescriptor.object.render = [objectName.toList] := by decide
          rw [unbounded, alone] at inBound
          exact .inr (List.mem_singleton.mp inBound)
        · have split : "? extends " ++ bound.render = "? extends" ++ (" " ++ bound.render) := by
            rw [← String.append_assoc]
            rfl
          rw [split, mem_nameRuns_append dotted (by decide) (by decide)]
          exact .inl (.inr inBound)
      · exact .inr isObject
  | @array _ component _ ih =>
      obtain ⟨other, inComponent, isRun⟩ := exists_of_mem_arrayLevel dotted found isRun
      refine (ih inComponent isRun).imp_left fun inRender => ?_
      rw [TypeDescriptor.render]
      exact (mem_nameRuns_dims dotted _).mpr inRender

/-! ### The body of a decoder -/

/-- The locals of a target's decoder. -/
def targetLocals (target : Target) (plan : DecodePlan) : List (String × String) :=
  localNames target.qualifiedName (plan.fields.map (·.field))

/-- The names that no local of a target's decoder may have. -/
def targetReserved (target : Target) (plan : DecodePlan) : List String :=
  reservedLocals ++ rootsOf target.qualifiedName (plan.fields.map (·.field))

/-- The texts that name classes in the body of a target's decoder, each with the text of the line
in which it is written. -/
inductive WritesClass (target : Target) (plan : DecodePlan) : (text line : String) → Prop
  | created :
      WritesClass target plan target.qualifiedName
        ("return new " ++ target.qualifiedName ++ "(" ++
          Text.join ", " (plan.fields.map fun p => localOf (targetLocals target plan) p.field) ++
          ");")
  | declared {p : FieldPlan} : p ∈ plan.fields →
      WritesClass target plan p.field.type.toBoxed.render
        (p.field.type.toBoxed.render ++ " " ++ localOf (targetLocals target plan) p.field ++
          " = null;")
  | adapter {p : FieldPlan} {type : TypeDescriptor} {expr : TypeExpr} : p ∈ plan.fields →
      p.strategy = .delegated type expr →
      WritesClass target plan type.toBoxed.render
        ("final JsonAdapter<" ++ type.toBoxed.render ++ "> _adapter = moshi.adapter(" ++
          expr.render ++ ");")
  | literal {p : FieldPlan} {type : TypeDescriptor} {expr : TypeExpr} {text : String} :
      p ∈ plan.fields → p.strategy = .delegated type expr → text ∈ classTexts expr →
      WritesClass target plan text
        ("final JsonAdapter<" ++ type.toBoxed.render ++ "> _adapter = moshi.adapter(" ++
          expr.render ++ ");")

section

variable {target : Target} {plan : DecodePlan}

theorem mem_textsOf_statement {text : String} {steps : List Step}
    (found : .statement text ∈ steps) : text ++ ";" ∈ textsOf steps := by
  induction steps with
  | nil => simp at found
  | cons step rest ih =>
      rw [textsOf, List.mem_append]
      rcases List.mem_cons.mp found with rfl | later
      · exact .inl (List.mem_singleton_self _)
      · exact .inr (ih later)

theorem armSteps_subset {p : FieldPlan} (isField : p ∈ plan.fields) (debugLogs : Bool) :
    armSteps (targetLocals target plan) debugLogs p ⊆
      decoderSteps target.qualifiedName plan debugLogs := by
  intro step found
  have inArms : step ∈ plan.fields.flatMap (armSteps (targetLocals target plan) debugLogs) :=
    List.mem_flatMap.mpr ⟨p, isField, found⟩
  unfold targetLocals at inArms
  simp only [decoderSteps, flow, List.mem_append, List.mem_cons, List.cons_append]
  tauto

theorem adapter_mem_decoderSteps {p : FieldPlan} (isField : p ∈ plan.fields)
    {type : TypeDescriptor} {expr : TypeExpr} (delegated : p.strategy = .delegated type expr)
    (debugLogs : Bool) :
    .statement ("final JsonAdapter<" ++ type.toBoxed.render ++ "> _adapter = moshi.adapter(" ++
      expr.render ++ ")") ∈ decoderSteps target.qualifiedName plan debugLogs := by
  apply armSteps_subset isField debugLogs
  simp [armSteps, indented, readSteps, delegated, flow]

theorem declaration_mem_decoderSteps {p : FieldPlan} (isField : p ∈ plan.fields)
    (debugLogs : Bool) :
    declareStep (targetLocals target plan) p.field ∈
      decoderSteps target.qualifiedName plan debugLogs := by
  have declared : declareStep (targetLocals target plan) p.field ∈
      (plan.fields.map (·.field)).map (declareStep (targetLocals target plan)) :=
    List.mem_map_of_mem (List.mem_map_of_mem isField)
  unfold targetLocals at declared
  simp only [decoderSteps, List.mem_append]
  tauto

theorem creation_mem_decoderSteps (target : Target) (plan : DecodePlan) (debugLogs : Bool) :
    .statement ("return new " ++ target.qualifiedName ++ "(" ++
      Text.join ", " (plan.fields.map fun p => localOf (targetLocals target plan) p.field) ++
      ")") ∈ decoderSteps target.qualifiedName plan debugLogs := by
  simp [decoderSteps, targetLocals, Function.comp_def]

/-- Classes are written in lines of the decoder. -/
theorem WritesClass.mem_texts {text line : String} (writes : WritesClass target plan text line)
    (debugLogs : Bool) :
    line ∈ (decoder target.qualifiedName plan debugLogs).body.texts ∧
      text.toList <:+: line.toList := by
  rw [texts_decoder]
  cases writes with
  | created =>
      have isLine := mem_textsOf_statement (creation_mem_decoderSteps target plan debugLogs)
      rw [append_call_end] at isLine
      refine ⟨isLine, ?_⟩
      simp only [String.toList_append, List.append_assoc]
      exact List.infix_append' _ _ _
  | declared isField =>
      have step : _ ∈ decoderSteps target.qualifiedName plan debugLogs :=
        declaration_mem_decoderSteps isField debugLogs
      have isLine := mem_textsOf_statement step
      refine ⟨by simpa [String.append_assoc] using isLine, ?_⟩
      simp only [String.toList_append, List.append_assoc]
      exact (List.prefix_append _ _).isInfix
  | @adapter p type expr isField delegated =>
      have step : _ ∈ decoderSteps target.qualifiedName plan debugLogs :=
        adapter_mem_decoderSteps isField delegated debugLogs
      have isLine := mem_textsOf_statement step
      rw [append_call_end] at isLine
      refine ⟨isLine, ?_⟩
      simp only [String.toList_append, List.append_assoc]
      exact List.infix_append' _ _ _
  | @literal p type expr text isField delegated found =>
      have step : _ ∈ decoderSteps target.qualifiedName plan debugLogs :=
        adapter_mem_decoderSteps isField delegated debugLogs
      have isLine := mem_textsOf_statement step
      rw [append_call_end] at isLine
      refine ⟨isLine, ?_⟩
      have inExpr : text.toList <:+: expr.render.toList := by
        have literal := infix_render expr found
        rw [String.toList_append] at literal
        exact (List.prefix_append _ _).isInfix.trans literal
      simp only [String.toList_append]
      exact inExpr.trans (List.infix_append _ _ _)

/-- No local of a target's decoder is among the names that none may have. -/
theorem localOf_not_mem_targetReserved {p : FieldPlan} (isField : p ∈ plan.fields) :
    localOf (targetLocals target plan) p.field ∉ targetReserved target plan := by
  obtain ⟨⟨taken, kept⟩, all⟩ :=
    localNames_assigned target.qualifiedName (plan.fields.map (·.field))
  exact (kept.localFor _ (all p.field (List.mem_map_of_mem isField))).notReserved

theorem packageRoots_subset_targetReserved {p : FieldPlan} (isField : p ∈ plan.fields) :
    packageRoots p.field.type.toBoxed.render ⊆ targetReserved target plan := by
  intro root isRoot
  refine List.mem_append_right _ (List.mem_append_right _ (List.mem_flatMap.mpr ?_))
  exact ⟨p.field, List.mem_map_of_mem isField, isRoot⟩

theorem toBoxed_of_delegated {typeName : String} {field : Field} {type : TypeDescriptor}
    {expr : TypeExpr}
    (selected : DecodeStrategy.select typeName field = .ok (.delegated type expr)) :
    field.type.toBoxed = field.type := by
  cases shape : field.type with
  | primitive kind =>
      unfold DecodeStrategy.select at selected
      rw [shape] at selected
      dsimp only at selected
      split at selected <;> simp at selected
  | boxed kind | string | reference name args | wildcard bound | array component => rfl

/-- The first segment of a dotted name of a class that a decoder writes is a name that no local
has. -/
theorem WritesClass.firstSegment_mem {text line : String}
    (writes : WritesClass target plan text line)
    (planned : ∀ p ∈ plan.fields, (∃ input, TypeDescriptor.parse input = .ok p.field.type) ∧
      DecodeStrategy.select target.qualifiedName p.field = .ok p.strategy)
    {name : String} (stands : StandsIn name text) :
    firstSegment name ∈ targetReserved target plan := by
  have isRun := stands.mem_nameRuns
  have dotted := stands.dotted
  cases writes with
  | created =>
      have isRoot := firstSegment_mem_packageRoots isRun dotted
      exact List.mem_append_right _ (List.mem_append_left _ isRoot)
  | declared isField =>
      exact packageRoots_subset_targetReserved isField (firstSegment_mem_packageRoots isRun dotted)
  | adapter isField delegated =>
      obtain ⟨-, selected⟩ := planned _ isField
      rw [delegated] at selected
      obtain ⟨rfl, -⟩ := eq_of_select_eq_delegated selected
      exact packageRoots_subset_targetReserved isField (firstSegment_mem_packageRoots isRun dotted)
  | literal isField delegated found =>
      obtain ⟨⟨input, parsed⟩, selected⟩ := planned _ isField
      rw [delegated] at selected
      obtain ⟨rfl, rfl⟩ := eq_of_select_eq_delegated selected
      rcases mem_nameRuns_render (wellFormed_of_parse parsed) dotted found isRun with
        inType | isObject
      · rw [← toBoxed_of_delegated selected] at inType
        exact packageRoots_subset_targetReserved isField
          (firstSegment_mem_packageRoots inType dotted)
      · have java : firstSegment name = "java" := by
          rw [firstSegment, isObject]
          decide
        rw [java]
        exact List.mem_append_left _ (by simp [reservedLocals])

end

/-- The pass that finds the locals of a decoder ends. Every field has a local, which is its name
with underscores at the end, the name itself unless that is reserved, and no reserved one; fields
of two names have two locals. If the types were read from texts, no local is the first segment of
a dotted class name that is written in the body. -/
theorem locals_avoid_capture (target : Target) (plan : DecodePlan) (debugLogs : Bool) :
    let names := plan.fields.map (·.field.name)
    let reserved := targetReserved target plan
    let locals := targetLocals target plan
    Pass reserved names [] names locals ∧
      (∀ p ∈ plan.fields, locals.lookup p.field.name = some (localOf locals p.field) ∧
        (∃ n, localOf locals p.field = withUnderscores p.field.name n) ∧
        (p.field.name ∉ reserved → localOf locals p.field = p.field.name) ∧
        localOf locals p.field ∉ reservedLocals) ∧
      (∀ p ∈ plan.fields, ∀ q ∈ plan.fields, p.field.name ≠ q.field.name →
        localOf locals p.field ≠ localOf locals q.field) ∧
      ((∀ p ∈ plan.fields, (∃ input, TypeDescriptor.parse input = .ok p.field.type) ∧
          DecodeStrategy.select target.qualifiedName p.field = .ok p.strategy) →
        ∀ text line, WritesClass target plan text line →
          line ∈ (decoder target.qualifiedName plan debugLogs).body.texts ∧
            text.toList <:+: line.toList ∧
            ∀ name, StandsIn name text → ∀ p ∈ plan.fields,
              localOf locals p.field ≠ firstSegment name) := by
  intro names reserved locals
  have sameNames : (plan.fields.map (·.field)).map (·.name) = names := by
    rw [List.map_map]
    rfl
  obtain ⟨⟨taken, kept⟩, all⟩ :=
    localNames_assigned target.qualifiedName (plan.fields.map (·.field))
  refine ⟨?_, ?_, ?_, ?_⟩
  · have pass := pass_assignLocals reserved names [] names
    rw [← sameNames] at pass ⊢
    exact pass
  · intro p isField
    have found : (p.field.name, localOf locals p.field) ∈ locals :=
      all p.field (List.mem_map_of_mem isField)
    have isLocal := kept.localFor _ found
    have assigned : p.field.name ∈ locals.map (·.1) := List.mem_map.mpr ⟨_, found, rfl⟩
    exact ⟨lookup_eq_some_localOf assigned, isLocal.underscores, isLocal.kept,
      fun isReserved => isLocal.notReserved (List.mem_append_left _ isReserved)⟩
  · intro p isP q isQ differ
    exact localOf_ne_localOf target.qualifiedName (List.mem_map_of_mem isP)
      (List.mem_map_of_mem isQ) differ
  · intro planned text line writes
    obtain ⟨isLine, stands⟩ := writes.mem_texts debugLogs
    refine ⟨isLine, stands, fun name isName p isField same => ?_⟩
    have reservedRoot := writes.firstSegment_mem planned isName
    rw [← same] at reservedRoot
    exact localOf_not_mem_targetReserved isField reservedRoot

/-- Fields that are called like the roots of the classes in an array of a type with wildcards. -/
theorem locals_avoid_capture_of_wildcards :
    let box : TypeDescriptor :=
      .reference "a.Box" [.wildcard (.reference "b.C" []), .wildcard .object]
    let target : Target := { qualifiedName := "net.Feed" }
    let plan : DecodePlan :=
      ⟨"net.Feed",
        [⟨⟨"b", "b", .array box, false⟩, .delegated (.array box) (.ofType (.array box))⟩,
          ⟨⟨"java", "java", .string, false⟩, .string⟩]⟩
    (∀ p ∈ plan.fields, (∃ input, TypeDescriptor.parse input = .ok p.field.type) ∧
        DecodeStrategy.select target.qualifiedName p.field = .ok p.strategy) ∧
      plan.fields.map (fun p => localOf (targetLocals target plan) p.field) = ["b_", "java_"] ∧
      ∀ p ∈ plan.fields, localOf (targetLocals target plan) p.field ≠ firstSegment "b.C" ∧
        localOf (targetLocals target plan) p.field ≠ firstSegment "java.lang.Object" := by
  intro box target plan
  have isClass (name : String) (valid : TypeDescriptor.isTypeName name = true)
      (letters : name.toList.all isNameChar = true)
      (free : TypeDescriptor.ofName name = .reference name []) : IsClassName name :=
    ⟨TypeDescriptor.isTypeName_iff.mp valid, List.all_eq_true.mp letters,
      TypeDescriptor.isReference_iff.mpr free⟩
  have bounds : ∀ arg ∈ [TypeDescriptor.wildcard (.reference "b.C" []), .wildcard .object],
      WellFormed true arg := by
    have bound : WellFormed true (.reference "b.C" []) :=
      .reference (isClass _ (by decide) (by decide) (by decide)) (by simp)
    exact List.forall_mem_cons.mpr ⟨.wildcard bound,
      List.forall_mem_singleton.mpr (.wildcard TypeDescriptor.wellFormed_object)⟩
  have isBox : WellFormed false (.array box) :=
    .array (.reference (isClass _ (by decide) (by decide) (by decide)) bounds)
  have planned : ∀ p ∈ plan.fields,
      (∃ input, TypeDescriptor.parse input = .ok p.field.type) ∧
        DecodeStrategy.select target.qualifiedName p.field = .ok p.strategy :=
    List.forall_mem_cons.mpr ⟨⟨⟨_, TypeDescriptor.parse_render isBox⟩, rfl⟩,
      List.forall_mem_singleton.mpr ⟨⟨_, TypeDescriptor.parse_render .string⟩, rfl⟩⟩
  obtain ⟨-, -, -, avoids⟩ := locals_avoid_capture target plan false
  have stands (name : String) (letters : name.toList.all isNameChar = true)
      (dotted : '.' ∈ name.toList) : StandsIn name name :=
    ⟨List.all_eq_true.mp letters, dotted, [], [], by simp, by simp, by simp⟩
  have apart (name : String) (letters : name.toList.all isNameChar = true)
      (dotted : '.' ∈ name.toList)
      (found : name ∈ classTexts (TypeExpr.ofType (.array box))) :
      ∀ p ∈ plan.fields, localOf (targetLocals target plan) p.field ≠ firstSegment name := by
    have writes : WritesClass target plan name _ := .literal List.mem_cons_self rfl found
    exact (avoids planned name _ writes).2.2 name (stands name letters dotted)
  refine ⟨planned, by decide +kernel, fun p isField => ⟨?_, ?_⟩⟩
  · exact apart "b.C" (by decide) (by decide) (by decide) p isField
  · exact apart "java.lang.Object" (by decide) (by decide) (by decide) p isField

end AdapterGen.Emission
