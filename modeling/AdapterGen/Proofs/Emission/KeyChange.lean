import AdapterGen.Proofs.Decoder.Labels
import AdapterGen.Proofs.Emission.Bodies
import AdapterGen.Proofs.Emission.Rules

/-!
# A JSON key stands in two lines

Two accepted targets that are the same but for the key of one parameter are given the same units,
but for the label of that key and, if the key is required, the error about its absence.

## Implementation notes

A key is what a family of steps depends on. `WritesAround` says that such steps write the same lines
for every key but in one place, and is kept when anything is written around them.
-/

namespace AdapterGen

open Code

/-- Two targets that are the same but for the keys declared for one of their parameters. -/
def DiffersInKey (target other : Target) (p q : Parameter) : Prop :=
  q = { p with jsonName := q.jsonName } ∧ ∃ earlier before after later,
    target.constructors = earlier ++ (before ++ p :: after) :: later ∧
    other = { target with constructors := earlier ++ (before ++ q :: after) :: later }

/-- The body of a method. -/
def Code.ClassDecl.body? (decl : ClassDecl) (method : String) : Option Block :=
  (decl.methods.find? (·.name == method)).map (·.body)

/-- A class with another body for a method. -/
def Code.ClassDecl.withBody (decl : ClassDecl) (method : String) (body : Block) : ClassDecl :=
  { decl with
    methods := decl.methods.map fun m => if m.name = method then { m with body := body } else m }

/-! ### Plans -/

/-- A field's plan with another key. -/
def FieldPlan.withKey (p : FieldPlan) (key : String) : FieldPlan :=
  { p with field := { p.field with jsonName := key } }

namespace DecodePlan

variable {target : String} {seen others : List String} {plans otherPlans : List FieldPlan}

/-- Fields have one plan each. -/
theorem Plans.unique {fields : List Field} (isPlan : Plans target seen fields plans)
    (isOther : Plans target others fields otherPlans) : plans = otherPlans := by
  induction fields generalizing seen others plans otherPlans with
  | nil =>
      obtain rfl := List.map_eq_nil_iff.mp isPlan.fields
      obtain rfl := List.map_eq_nil_iff.mp isOther.fields
      rfl
  | cons field rest ih =>
      obtain ⟨-, strategy, later, read, rfl, isRest⟩ := plans_cons_iff.mp isPlan
      obtain ⟨-, otherStrategy, otherLater, otherRead, rfl, isOtherRest⟩ :=
        plans_cons_iff.mp isOther
      obtain rfl := Except.ok.inj (read.symm.trans otherRead)
      rw [ih isRest isOtherRest]

/-- The plans of fields one of which has another key are the same, but for the plan of that field,
which has the other key. -/
theorem Plans.of_other_key {before after : List Field} {field : Field} {key : String}
    (isPlan : Plans target seen (before ++ field :: after) plans)
    (isOther : Plans target others (before ++ { field with jsonName := key } :: after)
      otherPlans) :
    ∃ front p behind, plans = front ++ p :: behind ∧ p.field = field ∧
      otherPlans = front ++ p.withKey key :: behind := by
  induction before generalizing seen others plans otherPlans with
  | nil =>
      obtain ⟨-, strategy, later, read, rfl, isRest⟩ := plans_cons_iff.mp isPlan
      obtain ⟨-, otherStrategy, otherLater, otherRead, rfl, isOtherRest⟩ :=
        plans_cons_iff.mp isOther
      -- a read is chosen by the type
      obtain rfl : strategy = otherStrategy := Except.ok.inj (read.symm.trans otherRead)
      rw [isOtherRest.unique isRest]
      exact ⟨[], ⟨field, strategy⟩, later, rfl, rfl, rfl⟩
  | cons first before ih =>
      obtain ⟨-, strategy, later, read, rfl, isRest⟩ := plans_cons_iff.mp isPlan
      obtain ⟨-, otherStrategy, otherLater, otherRead, rfl, isOtherRest⟩ :=
        plans_cons_iff.mp isOther
      obtain rfl := Except.ok.inj (read.symm.trans otherRead)
      obtain ⟨front, p, behind, rfl, isField, rfl⟩ := ih isRest isOtherRest
      exact ⟨⟨first, strategy⟩ :: front, p, behind, rfl, isField, rfl⟩

end DecodePlan

namespace Emission

/-! ### Lines around a key -/

/-- Steps that depend on a key and lead back to their depth. They write the same lines for every
key, with some that depend on the key in one place. -/
def WritesAround (depth : Nat) (steps : String → List Step) (lines : String → List Line) : Prop :=
  ∃ front back, ∀ key, depthAfter depth (steps key) = depth ∧
    (markedOf depth (steps key)).map (·.line) = front ++ lines key ++ back

namespace WritesAround

variable {depth : Nat} {steps : String → List Step} {lines : String → List Line}

theorem line (depth : Nat) (text : String → String) :
    WritesAround depth (fun key => [.line (text key)]) fun key => [⟨depth, text key⟩] :=
  ⟨[], [], fun _ => ⟨rfl, rfl⟩⟩

theorem statement (depth : Nat) (text : String → String) :
    WritesAround depth (fun key => [.statement (text key)]) fun key => [⟨depth, text key ++ ";"⟩] :=
  ⟨[], [], fun _ => ⟨rfl, rfl⟩⟩

theorem nothing (depth : Nat) : WritesAround depth (fun _ => []) fun _ => [] :=
  ⟨[], [], fun _ => ⟨rfl, rfl⟩⟩

theorem behind {more : List Step} (nested : WellNested more)
    (around : WritesAround depth steps lines) :
    WritesAround depth (fun key => more ++ steps key) lines := by
  obtain ⟨front, back, written⟩ := around
  refine ⟨(markedOf depth more).map (·.line) ++ front, back, fun key => ?_⟩
  obtain ⟨same, shape⟩ := written key
  rw [depthAfter_append, markedOf_append, nested.depthAfter_eq, List.map_append, shape]
  exact ⟨same, by simp only [List.append_assoc]⟩

theorem before {more : List Step} (nested : WellNested more)
    (around : WritesAround depth steps lines) :
    WritesAround depth (fun key => steps key ++ more) lines := by
  obtain ⟨front, back, written⟩ := around
  refine ⟨front, back ++ (markedOf depth more).map (·.line), fun key => ?_⟩
  obtain ⟨same, shape⟩ := written key
  rw [depthAfter_append, markedOf_append, same, List.map_append, shape]
  exact ⟨nested.depthAfter_eq depth, by simp only [List.append_assoc]⟩

theorem flow (header : String) (around : WritesAround (depth + 1) steps lines) :
    WritesAround depth (fun key => Code.flow header (steps key)) lines := by
  obtain ⟨front, back, written⟩ := around
  refine ⟨⟨depth, Block.openingText header⟩ :: front, back ++ [⟨depth, "\x7d"⟩], fun key => ?_⟩
  obtain ⟨same, shape⟩ := written key
  have deeper : Step.depthAfter depth (.beginFlow header) = depth + 1 := rfl
  dsimp only
  rw [Code.flow, List.cons_append, depthAfter_cons, markedOf, depthAfter_append, markedOf_append,
    deeper, same, List.map_append, List.map_append, shape]
  exact ⟨rfl, by simp [Step.marked, markedOf]⟩

end WritesAround

/-! ### The key of a decoder's field -/

/-- The line that reports a missing key. -/
def throwLine (key : String) : String :=
  "throw new IOException(" ++ stringLiteral (missingFieldMessage key) ++ ");"

/-- The lines of a decoder around those with the key of one field, which may be required. -/
structure KeyedLines where
  front : List Line
  middle : List Line
  back : List Line
  required : Bool

/-- The body of a decoder when the field has a key: its label stands among the arms, and the error
about its absence in a check. -/
def KeyedLines.body (lines : KeyedLines) (key : String) : Block where
  lines := lines.front ++ ⟨armDepth, caseLine key⟩ :: lines.middle ++
    (if lines.required then [⟨1, throwLine key⟩] else []) ++ lines.back
  depth := 0

section

variable (targetName : String) (front behind : List FieldPlan) (p : FieldPlan)

theorem localNames_withKey (key : String) :
    localNames targetName ((front ++ p.withKey key :: behind).map (·.field)) =
      localNames targetName ((front ++ p :: behind).map (·.field)) := by
  simp [localNames, rootsOf, FieldPlan.withKey]

/-- An arm writes the key in its label alone. -/
theorem writesAround_armSteps (locals : List (String × String)) (debugLogs : Bool) :
    WritesAround armDepth (fun key => armSteps locals debugLogs (p.withKey key))
      fun key => [⟨armDepth, caseLine key⟩] := by
  have read := (tidy_readSteps p (localOf locals p.field) debugLogs).append (.statement "break")
  exact (WritesAround.line armDepth caseLine).before read.nested.indented

/-- A check writes the key in its error alone. -/
theorem writesAround_requireSteps (locals : List (String × String)) :
    WritesAround 0 (fun key => requireSteps locals (p.withKey key).field)
      fun key => [⟨1, throwLine key⟩] := by
  have ends (text : String) : text ++ ")" ++ ";" = text ++ ");" := by
    rw [String.append_assoc]
    rfl
  have error := WritesAround.statement 1 fun key =>
    "throw new IOException(" ++ stringLiteral (missingFieldMessage key) ++ ")"
  simp only [ends] at error
  exact error.flow ("if (" ++ localOf locals p.field ++ " == null)")

theorem writesAround_loop (locals : List (String × String)) (debugLogs : Bool) :
    WritesAround 0
      (fun key => Code.flow "while (reader.hasNext())"
        ([.statement "final String _name = reader.nextName()"] ++
          whenLogging debugLogs [logStep (stringLiteral "\tGot name: \x7b0\x7d" ++ ", _name")] ++
          Code.flow "switch (_name)"
            ((front ++ p.withKey key :: behind).flatMap (armSteps locals debugLogs) ++
              .line "default:" :: Code.indented [.statement "reader.skipValue()"])))
      fun key => [⟨armDepth, caseLine key⟩] := by
  have skip : Tidy (.line "default:" :: Code.indented [.statement "reader.skipValue()"]) :=
    (Tidy.label "default").append (Tidy.statement _).indented
  have arms (plans : List FieldPlan) : Tidy (plans.flatMap (armSteps locals debugLogs)) :=
    .flatMap plans (tidy_armSteps locals debugLogs)
  have entry : Tidy ([.statement "final String _name = reader.nextName()"] ++
      whenLogging debugLogs [logStep (stringLiteral "\tGot name: \x7b0\x7d" ++ ", _name")]) :=
    (Tidy.statement _).append (.whenLogging debugLogs (.statement _))
  have switch := (((writesAround_armSteps p locals debugLogs).before
    ((arms behind).append skip).nested).behind (arms front).nested).flow "switch (_name)"
  have loop := (switch.behind entry.nested).flow "while (reader.hasNext())"
  simpa only [List.flatMap_append, List.flatMap_cons, List.append_assoc] using loop

/-- The checks write the key if the field is required. -/
theorem writesAround_checks (locals : List (String × String)) :
    WritesAround 0
      (fun key => (DecodePlan.requiredFields ⟨targetName, front ++ p.withKey key :: behind⟩).flatMap
        (requireSteps locals))
      fun key => if !p.field.nullable then [⟨1, throwLine key⟩] else [] := by
  have others (plans : List FieldPlan) : WellNested
      (((plans.map (·.field)).filter (!·.nullable)).flatMap (requireSteps locals)) :=
    .flatMap fun field _ => (tidy_requireSteps locals field).nested
  have single : WritesAround 0
      (fun key => ([(p.withKey key).field].filter (!·.nullable)).flatMap (requireSteps locals))
      fun key => if !p.field.nullable then [⟨1, throwLine key⟩] else [] := by
    cases isNullable : p.field.nullable with
    | true =>
        simp only [FieldPlan.withKey, List.filter, isNullable]
        exact .nothing 0
    | false =>
        simp only [FieldPlan.withKey, List.filter, isNullable]
        exact (writesAround_requireSteps p locals).before .nil
  have split (key : String) :
      DecodePlan.requiredFields ⟨targetName, front ++ p.withKey key :: behind⟩ =
        (front.map (·.field)).filter (!·.nullable) ++
          ([(p.withKey key).field].filter (!·.nullable) ++
            (behind.map (·.field)).filter (!·.nullable)) := by
    rw [← List.filter_append, ← List.filter_append]
    simp [DecodePlan.requiredFields]
  have whole := (single.before (others behind)).behind (others front)
  simpa only [split, List.flatMap_append] using whole

end

theorem exists_keyedLines {first second : String → List Step} {required : Bool}
    (arms : WritesAround 0 first fun key => [⟨armDepth, caseLine key⟩])
    (checks : WritesAround 0 second fun key => if required then [⟨1, throwLine key⟩] else []) :
    ∃ lines : KeyedLines, lines.required = required ∧
      ∀ key, Block.ofSteps (first key ++ second key) = lines.body key := by
  obtain ⟨front, back, written⟩ := arms
  obtain ⟨checkFront, checkBack, alsoWritten⟩ := checks
  refine ⟨⟨front, back ++ checkFront, checkBack, required⟩, rfl, fun key => ?_⟩
  obtain ⟨same, lines⟩ := written key
  obtain ⟨alsoSame, checkLines⟩ := alsoWritten key
  rw [Block.ofSteps, Block.applyAll_eq, depthAfter_append, markedOf_append, List.map_append, same,
    lines, checkLines, alsoSame]
  simp [KeyedLines.body]

/-- The bodies of a decoder for the keys of one field have the same lines around it. -/
theorem exists_keyedLines_decoder (targetName : String) (front behind : List FieldPlan)
    (p : FieldPlan) (debugLogs : Bool) :
    ∃ lines : KeyedLines, lines.required = !p.field.nullable ∧
      ∀ key, (decoder targetName ⟨targetName, front ++ p.withKey key :: behind⟩ debugLogs).body =
        lines.body key := by
  let fields := (front ++ p :: behind).map (·.field)
  let locals := localNames targetName fields
  have declarations (key : String) :
      ((front ++ p.withKey key :: behind).map (·.field)).map (declareStep locals) =
        fields.map (declareStep locals) := by
    simp [fields, FieldPlan.withKey, declareStep, localOf]
  have arguments (key : String) :
      ((front ++ p.withKey key :: behind).map (·.field)).map (localOf locals) =
        fields.map (localOf locals) := by
    simp [fields, FieldPlan.withKey, localOf]
  have begins : Tidy (whenLogging debugLogs [logStep "\"Reading json\""] ++
      fields.map (declareStep locals) ++ [.statement "reader.beginObject()"]) :=
    ((Tidy.whenLogging debugLogs (.statement _)).append
      (.map fields fun field => .statement _)).append (.statement _)
  have ends : Tidy [.statement "reader.endObject()"] := .statement _
  have returns (args : String) :
      Tidy [.statement ("return new " ++ targetName ++ "(" ++ args ++ ")")] := .statement _
  have loop := ((writesAround_loop front behind p locals debugLogs).behind begins.nested).before
    ends.nested
  have checks := (writesAround_checks targetName front behind p locals).before
    (returns (Text.join ", " (fields.map (localOf locals)))).nested
  obtain ⟨lines, isRequired, written⟩ := exists_keyedLines loop checks
  refine ⟨lines, isRequired, fun key => ?_⟩
  rw [← written key, decoder, decoderSteps]
  simp only [localNames_withKey]
  rw [declarations, arguments]
  simp only [List.append_assoc]
  rfl

/-! ### The units of two targets -/

/-- A unit with another body for a method. -/
def EmittedUnit.withBody (unit : EmittedUnit) (method : String) (body : Block) : EmittedUnit :=
  { unit with file := { unit.file with decl := unit.file.decl.withBody method body } }

/-- A plan shows in the decoder and the imports of an adapter alone. -/
theorem adapterClass_withBody (config : Config) (target : Target) (package : String)
    {plan other : DecodePlan} (helper : other.usesTypesHelper = plan.usesTypesHelper) :
    adapterClass config target package other =
      (adapterClass config target package plan).withBody "fromJson"
        (decoder target.qualifiedName other target.flags.debugLogs).body := by
  simp only [adapterClass, helper]
  rfl

section

variable {config : Config} {target other : Target} {p q : Parameter}
  {emitted changed : EmittedTarget}

/-- The plans of two accepted targets differ in the key of one field, and give all units. -/
theorem plans_of_other_key (differs : DiffersInKey target other p q)
    (accepted : emitTarget config target = .ok emitted)
    (alsoAccepted : emitTarget config other = .ok changed) :
    ∃ (package : String) (front : List FieldPlan) (plan : FieldPlan) (behind : List FieldPlan),
      plan.field.nullable = (Target.fieldOf config p).nullable ∧
      emitted.plan = ⟨target.qualifiedName, front ++ plan.withKey p.key :: behind⟩ ∧
      changed.plan = ⟨target.qualifiedName, front ++ plan.withKey q.key :: behind⟩ ∧
      unitsOf config target package emitted.plan = emitted.units ∧
      unitsOf config target package changed.plan = changed.units := by
  obtain ⟨sameElse, earlier, before, after, later, declared, rfl⟩ := differs
  obtain ⟨package, _, -, known, isFields, planned, units⟩ := emitTarget_eq_ok_iff.mp accepted
  obtain ⟨_, _, -, alsoKnown, areFields, alsoPlanned, otherUnits⟩ :=
    emitTarget_eq_ok_iff.mp alsoAccepted
  obtain rfl : package = _ := Option.some.inj (known.symm.trans alsoKnown)
  obtain ⟨parameters, single, -, rfl⟩ := Target.fields_eq_ok_iff.mp isFields
  obtain ⟨otherParameters, otherSingle, -, rfl⟩ := Target.fields_eq_ok_iff.mp areFields
  obtain rfl : before ++ p :: after = parameters := by
    have found : before ++ p :: after ∈ [parameters] := by simp [← single, declared]
    exact List.mem_singleton.mp found
  obtain rfl : before ++ q :: after = otherParameters := by
    have found : before ++ q :: after ∈ [otherParameters] := by simp [← otherSingle]
    exact List.mem_singleton.mp found
  have otherField : Target.fieldOf config q =
      { Target.fieldOf config p with jsonName := q.key } := by
    rw [sameElse]
    rfl
  obtain ⟨isTarget, plans⟩ := DecodePlan.build_eq_ok_iff.mp planned
  obtain ⟨isOtherTarget, otherPlans⟩ := DecodePlan.build_eq_ok_iff.mp alsoPlanned
  rw [List.map_append, List.map_cons] at plans otherPlans
  rw [otherField] at otherPlans
  obtain ⟨front, plan, behind, isPlan, isField, isOtherPlan⟩ := plans.of_other_key otherPlans
  have ownKey : plan.withKey p.key = plan := by
    rw [← Target.jsonName_fieldOf config p, ← isField]
    rfl
  refine ⟨package, front, plan, behind, by rw [isField], ?_, ?_, units, otherUnits⟩
  · rw [ownKey, ← isPlan, ← isTarget]
  · rw [← isOtherPlan]
    exact congrArg (DecodePlan.mk · changed.plan.fields) isOtherTarget

/-- Two targets that are the same but for the key of one parameter, and are both accepted, are
given the same units but for two lines of their decoders: the label of the key, and the error about
its absence if it is required. -/
theorem emitTarget_of_other_key (differs : DiffersInKey target other p q)
    (accepted : emitTarget config target = .ok emitted)
    (alsoAccepted : emitTarget config other = .ok changed) :
    ∃ (adapter : EmittedUnit) (others : List EmittedUnit) (lines : KeyedLines),
      lines.required = !(Target.fieldOf config p).nullable ∧
      emitted.units = adapter :: others ∧ adapter.kind = .adapter ∧
      adapter.file.decl.body? "fromJson" = some (lines.body p.key) ∧
      changed.units = adapter.withBody "fromJson" (lines.body q.key) :: others := by
  obtain ⟨package, front, plan, behind, nullable, isPlan, isOther, units, otherUnits⟩ :=
    plans_of_other_key differs accepted alsoAccepted
  obtain ⟨lines, isRequired, body⟩ := exists_keyedLines_decoder target.qualifiedName front behind
    plan target.flags.debugLogs
  obtain ⟨others, behindAdapter⟩ := exists_unitsOf_eq_cons config target package
  have helper : changed.plan.usesTypesHelper = emitted.plan.usesTypesHelper := by
    simp [DecodePlan.usesTypesHelper, isPlan, isOther, FieldPlan.withKey]
  have ownBody : (decoder target.qualifiedName emitted.plan target.flags.debugLogs).body =
      lines.body p.key := by rw [isPlan, body]
  have otherBody : (decoder target.qualifiedName changed.plan target.flags.debugLogs).body =
      lines.body q.key := by rw [isOther, body]
  refine ⟨_, others, lines, nullable ▸ isRequired, units.symm.trans (behindAdapter _), rfl,
    congrArg some ownBody, ?_⟩
  rw [← otherUnits, behindAdapter, adapterClass_withBody config target package helper, otherBody]
  rfl

end

/-- A required parameter with the key `age`, and with none of its own. -/
theorem emitTarget_of_other_key_person :
    let years : Parameter := { name := "years", type := .primitive .int, jsonName := some "age" }
    let renamed : Parameter := { years with jsonName := none }
    let person (p : Parameter) : Target :=
      { qualifiedName := "demo.Person", package := some "demo",
        constructors := [[{ name := "name", type := .string }, p]] }
    ∃ emitted changed, emitTarget {} (person years) = .ok emitted ∧
      emitTarget {} (person renamed) = .ok changed ∧
      DiffersInKey (person years) (person renamed) years renamed ∧
      ∃ (adapter : EmittedUnit) (lines : KeyedLines), lines.required = true ∧
        emitted.units = [adapter] ∧
        adapter.file.decl.body? "fromJson" = some (lines.body "age") ∧
        changed.units = [adapter.withBody "fromJson" (lines.body "years")] := by
  intro years renamed person
  have accepted : emitTarget {} (person years) = .ok _ := rfl
  have alsoAccepted : emitTarget {} (person renamed) = .ok _ := rfl
  have differs : DiffersInKey (person years) (person renamed) years renamed :=
    ⟨rfl, [], [{ name := "name", type := .string }], [], [], rfl, rfl⟩
  obtain ⟨adapter, others, lines, isRequired, units, -, body, otherUnits⟩ :=
    emitTarget_of_other_key differs accepted alsoAccepted
  obtain ⟨-, rfl⟩ := List.cons.inj units
  exact ⟨_, _, accepted, alsoAccepted, differs, adapter, lines, isRequired, units, body, otherUnits⟩

end Emission

end AdapterGen
