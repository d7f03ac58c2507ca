import AdapterGen.Emission.Adapter
import AdapterGen.Proofs.Emission.Accepted
import AdapterGen.Proofs.Java.Literal

/-!
# The labels of a decoder's switch

The labels are literals of the JSON keys, one for each field in order, and no two
are the same constant.

## Implementation notes

The arms of the switch are found by their depth in the body of the decoder, where
nothing else stands. No condition on the names and types of the fields is needed
for that, since no text is looked at.

-/

namespace AdapterGen.Emission

open Code Java

/-! ### Lines by their depth -/

/-- The depth of the arms in a decoder: inside the loop over the keys and the switch. -/
def armDepth : Nat := 2

/-- The lines at the depth of the arms. -/
def armLines (block : Block) : List String :=
  (block.lines.filter (·.depth == armDepth)).map (·.text)

/-- Steps that begin and end at a depth, and write some lines at the depth of the arms. -/
def WritesArms (depth : Nat) (steps : List Step) (arms : List String) : Prop :=
  ∀ block : Block, block.depth = depth →
    (block.applyAll steps).depth = depth ∧
      armLines (block.applyAll steps) = armLines block ++ arms

variable {depth : Nat} {steps more : List Step} {arms others : List String}

theorem armLines_addLine (block : Block) (text : String) :
    armLines (block.addLine text) =
      armLines block ++ if block.depth = armDepth then [text] else [] := by
  by_cases isArm : block.depth = armDepth <;> simp [armLines, Block.addLine, isArm]

theorem WritesArms.nil : WritesArms depth [] [] := fun _ same => ⟨same, by simp [Block.applyAll]⟩

theorem WritesArms.append (first : WritesArms depth steps arms)
    (second : WritesArms depth more others) :
    WritesArms depth (steps ++ more) (arms ++ others) := by
  intro block same
  obtain ⟨sameFirst, linesFirst⟩ := first block same
  obtain ⟨sameSecond, linesSecond⟩ := second _ sameFirst
  rw [Block.applyAll_append, linesSecond, linesFirst, List.append_assoc]
  exact ⟨sameSecond, rfl⟩

/-- Steps that write no arm, one after another. -/
theorem WritesArms.append_none (first : WritesArms depth steps [])
    (second : WritesArms depth more []) : WritesArms depth (steps ++ more) [] :=
  first.append second

theorem WritesArms.flatMap {α : Type} {parts : List α} {write : α → List Step}
    {arms : α → List String} (each : ∀ part ∈ parts, WritesArms depth (write part) (arms part)) :
    WritesArms depth (parts.flatMap write) (parts.flatMap arms) := by
  induction parts with
  | nil => exact .nil
  | cons part parts ih =>
      obtain ⟨first, later⟩ := List.forall_mem_cons.mp each
      exact first.append (ih later)

/-- A line at the depth of the arms is one of them. -/
theorem WritesArms.arm (text : String) : WritesArms armDepth [.line text] [text] := by
  intro block same
  refine ⟨same, ?_⟩
  rw [Block.applyAll, Block.applyAll, Block.apply, armLines_addLine, if_pos same]

theorem WritesArms.statement (text : String) (notArm : depth ≠ armDepth) :
    WritesArms depth [.statement text] [] := by
  intro block same
  refine ⟨same, ?_⟩
  rw [Block.applyAll, Block.applyAll, Block.apply, armLines_addLine, same, if_neg notArm]

theorem WritesArms.statements (notArm : depth ≠ armDepth)
    (areStatements : ∀ step ∈ steps, ∃ text, step = .statement text) :
    WritesArms depth steps [] := by
  induction steps with
  | nil => exact .nil
  | cons step steps ih =>
      obtain ⟨⟨text, rfl⟩, later⟩ := List.forall_mem_cons.mp areStatements
      exact (WritesArms.statement text notArm).append (ih later)

theorem WritesArms.flow (header : String) (notArm : depth ≠ armDepth)
    (body : WritesArms (depth + 1) steps arms) :
    WritesArms depth (Code.flow header steps) arms := by
  intro block same
  let opened := block.addLine (Block.openingText header)
  obtain ⟨sameInside, linesInside⟩ := body { opened with depth := opened.depth + 1 } (by
    rw [← same]
    rfl)
  have linesOpened : armLines opened = armLines block := by
    rw [armLines_addLine, same, if_neg notArm, List.append_nil]
  let inside := Block.applyAll { opened with depth := opened.depth + 1 } steps
  have written : block.applyAll (Code.flow header steps) =
      Block.addLine { inside with depth := inside.depth - 1 } "\x7d" := by
    rw [Code.flow, List.cons_append, Block.applyAll, Block.applyAll_append]
    rfl
  have depthBehind : inside.depth - 1 = depth := by
    rw [sameInside]
    rfl
  rw [written]
  refine ⟨depthBehind, ?_⟩
  rw [armLines_addLine, depthBehind, if_neg notArm, List.append_nil]
  exact linesInside.trans (congrArg (· ++ arms) linesOpened)

theorem WritesArms.indented (body : WritesArms (depth + 1) steps arms) :
    WritesArms depth (Code.indented steps) arms := by
  intro block same
  obtain ⟨sameInside, linesInside⟩ := body { block with depth := block.depth + 1 } (by rw [← same])
  have written : block.applyAll (Code.indented steps) =
      { Block.applyAll { block with depth := block.depth + 1 } steps with
        depth := (Block.applyAll { block with depth := block.depth + 1 } steps).depth - 1 } := by
    rw [Code.indented, List.cons_append, Block.applyAll, Block.applyAll_append]
    rfl
  rw [written]
  refine ⟨?_, linesInside⟩
  change (Block.applyAll _ steps).depth - 1 = depth
  rw [sameInside]
  rfl

theorem WritesArms.whenLogging (debugLogs : Bool) (text : String) (notArm : depth ≠ armDepth) :
    WritesArms depth (whenLogging debugLogs [logStep text]) [] := by
  cases debugLogs with
  | false => exact .nil
  | true => exact .statement _ notArm

/-! ### The arms of a decoder -/

/-- The line of a label. -/
def caseLine (key : String) : String := "case " ++ stringLiteral key ++ ":"

theorem writesArms_readSteps (p : FieldPlan) (x : String) (debugLogs : Bool) :
    WritesArms 3 (readSteps p x debugLogs) [] := by
  have inArm : 3 ≠ armDepth := by decide
  have inBraces : 4 ≠ armDepth := by decide
  unfold readSteps
  split
  · exact .statement _ inArm
  · exact .statement _ inArm
  · apply WritesArms.flow "" inArm
    have statement (text : String) : WritesArms 4 [.statement text] [] := .statement text inBraces
    have log (text : String) : WritesArms 4 (whenLogging debugLogs [logStep text]) [] :=
      .whenLogging debugLogs text inBraces
    exact (((statement _).append_none (log _)).append_none (statement _)).append_none (log _)

theorem writesArms_armSteps (locals : List (String × String)) (debugLogs : Bool) (p : FieldPlan) :
    WritesArms armDepth (armSteps locals debugLogs p) [caseLine p.field.jsonName] := by
  have read := writesArms_readSteps p (localOf locals p.field) debugLogs
  have body := read.append (WritesArms.statement "break" (by decide))
  exact (WritesArms.arm (caseLine p.field.jsonName)).append body.indented

theorem writesArms_switch (locals : List (String × String)) (debugLogs : Bool)
    (plan : DecodePlan) :
    WritesArms armDepth
      (plan.fields.flatMap (armSteps locals debugLogs) ++
        .line "default:" :: Code.indented [.statement "reader.skipValue()"])
      (plan.fields.map (fun p => caseLine p.field.jsonName) ++ ["default:"]) := by
  have cases : WritesArms armDepth (plan.fields.flatMap (armSteps locals debugLogs))
      (plan.fields.flatMap fun p => [caseLine p.field.jsonName]) :=
    .flatMap fun p _ => writesArms_armSteps locals debugLogs p
  have skip : WritesArms 3 [.statement "reader.skipValue()"] [] := .statement _ (by decide)
  rw [List.map_eq_flatMap]
  exact cases.append ((WritesArms.arm "default:").append skip.indented)

theorem writesArms_requireSteps (locals : List (String × String)) (fields : List Field) :
    WritesArms 0 (fields.flatMap (requireSteps locals)) [] := by
  have each : ∀ field ∈ fields, WritesArms 0 (requireSteps locals field) [] := by
    intro field _
    exact .flow _ (by decide) (.statement _ (by decide))
  have none : (fields.flatMap fun _ => ([] : List String)) = [] :=
    List.flatMap_eq_nil_iff.mpr fun _ _ => rfl
  exact none ▸ WritesArms.flatMap each

theorem writesArms_decoderSteps (targetName : String) (plan : DecodePlan) (debugLogs : Bool) :
    WritesArms 0 (decoderSteps targetName plan debugLogs)
      (plan.fields.map (fun p => caseLine p.field.jsonName) ++ ["default:"]) := by
  let fields := plan.fields.map (·.field)
  let locals := localNames targetName fields
  have outside : 0 ≠ armDepth := by decide
  have inLoop : 1 ≠ armDepth := by decide
  have declarations : WritesArms 0 (fields.map (declareStep locals)) [] :=
    .statements outside (List.forall_mem_map.mpr fun field _ => ⟨_, rfl⟩)
  have entry := (WritesArms.statement "final String _name = reader.nextName()" inLoop).append
    (.whenLogging debugLogs (stringLiteral "\tGot name: \x7b0\x7d" ++ ", _name") inLoop)
  have loop := entry.append
    (.flow "switch (_name)" inLoop (writesArms_switch locals debugLogs plan))
  have front := ((WritesArms.whenLogging debugLogs "\"Reading json\"" outside).append
    declarations).append (.statement "reader.beginObject()" outside)
  have read := (front.append (.flow "while (reader.hasNext())" outside loop)).append
    (.statement "reader.endObject()" outside)
  have whole := (read.append (writesArms_requireSteps locals plan.requiredFields)).append
    (.statement ("return new " ++ targetName ++ "(" ++
      Text.join ", " (fields.map (localOf locals)) ++ ")") outside)
  simp only [List.nil_append, List.append_nil] at whole
  exact whole

/-- The lines at the depth of the arms are the labels, in the order of the fields. -/
theorem armLines_decoder (targetName : String) (plan : DecodePlan) (debugLogs : Bool) :
    armLines (decoder targetName plan debugLogs).body =
      plan.fields.map (fun p => caseLine p.field.jsonName) ++ ["default:"] :=
  (writesArms_decoderSteps targetName plan debugLogs {} rfl).2

/-! ### Constants -/

/-- The constant of a label, read from its line. -/
def labelOf? (line : String) : Option String :=
  match lex? line with
  | some [.word word, .literal value, .sign c] =>
      if word = "case" ∧ c = ':' then some value else none
  | _ => none

theorem labelOf?_caseLine (key : String) : labelOf? (caseLine key) = some key := by
  have word : Closed "case " [.word "case"] := by decide
  have colon : Closed ":" [.sign ':'] := by decide
  have kept : unicode? (caseLine key) = some (caseLine key) :=
    unicode?_literal "case " ":" (by decide) (by decide) key
  have scanned : Closed (caseLine key) [.word "case", .literal key, .sign ':'] :=
    (word.append (closed_stringLiteral key)).append colon
  rw [labelOf?, lex?, kept, Option.bind_eq_bind, Option.bind_some, scanned.tokens?]
  simp

theorem labelOf?_default : labelOf? "default:" = none := by
  have kept : unicode? "default:" = some "default:" := by decide
  have scanned : Closed "default:" [.word "default", .sign ':'] := by decide
  rw [labelOf?, lex?, kept, Option.bind_eq_bind, Option.bind_some, scanned.tokens?]

/-- The labels of the switch in a decoder. -/
def switchLabels (body : Block) : List String := (armLines body).filterMap labelOf?

theorem switchLabels_decoder (targetName : String) (plan : DecodePlan) (debugLogs : Bool) :
    switchLabels (decoder targetName plan debugLogs).body =
      plan.fields.map (·.field.jsonName) := by
  rw [switchLabels, armLines_decoder, List.filterMap_append, List.filterMap_map]
  simp [labelOf?_caseLine, labelOf?_default]

/-- A literal of any text is one token with the text as its value, also when Unicode escapes are
replaced first, which changes nothing. So literals are equal only for equal texts. The labels of
the switch that is emitted for a plan are distinct and are the keys of the fields. -/
theorem literals_and_labels_faithful :
    (∀ value : String, unicode? (stringLiteral value) = some (stringLiteral value) ∧
      tokens? (stringLiteral value) = some [.literal value] ∧
      lex? (stringLiteral value) = some [.literal value] ∧
      ∃ body, (stringLiteral value).toList = '"' :: (body ++ ['"']) ∧ Inside body) ∧
    Function.Injective stringLiteral ∧
    (∀ (name : String) (fields : List Field) (plan : DecodePlan),
      DecodePlan.build name fields = .ok plan → ∀ (targetName : String) (debugLogs : Bool),
        switchLabels (decoder targetName plan debugLogs).body = fields.map (·.jsonName) ∧
        (switchLabels (decoder targetName plan debugLogs).body).Nodup) := by
  refine ⟨fun value => ?_, fun _ _ => stringLiteral_eq_of_eq, ?_⟩
  · refine ⟨unicode?_stringLiteral value, (closed_stringLiteral value).tokens?,
      lex?_stringLiteral value, value.toList.flatMap escapeChar, ?_, inside_escaped value.toList⟩
    simp [stringLiteral]
  · intro name fields plan built targetName debugLogs
    obtain ⟨-, plans⟩ := DecodePlan.build_eq_ok_iff.mp built
    rw [switchLabels_decoder]
    refine ⟨?_, plans.distinct⟩
    rw [← plans.fields, List.map_map]
    rfl

end AdapterGen.Emission
