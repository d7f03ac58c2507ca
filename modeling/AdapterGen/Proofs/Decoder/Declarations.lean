import AdapterGen.Proofs.Decoder.Program
import AdapterGen.Proofs.Emission.Accepted
import AdapterGen.Proofs.Source.Findings

/-!
# The locals that a decoder declares

The decoder of an accepted target declares a local for each parameter and passes them all to the
constructor. The locals are apart exactly when the parameters' names are.

## Implementation notes

Renaming keeps a local apart from the names of other fields and never looks at a second field of
the same name. Names are not compared when a target is accepted, its keys are. A scanned record
gives its fields' names in camel case, so two fields may come to one name while their keys differ.
-/

namespace AdapterGen

open Code Emission

/-! ### Locals of parameters -/

namespace Emission

/-- The locals of the parameters of a target's constructor. -/
def parameterLocals (config : Config) (target : Target) (parameters : List Parameter) :
    List String :=
  let fields := parameters.map (Target.fieldOf config)
  fields.map (localOf (localNames target.qualifiedName fields))

/-- The local of a field goes by its name alone. -/
theorem localOf_eq_of_name_eq {field other : Field} (same : field.name = other.name)
    (locals : List (String × String)) : localOf locals field = localOf locals other := by
  rw [localOf, localOf, same]

/-- The locals of fields are apart exactly when the fields' names are. -/
theorem nodup_locals_iff (targetName : String) (fields : List Field) :
    (fields.map (localOf (localNames targetName fields))).Nodup ↔
      (fields.map (·.name)).Nodup := by
  simp only [List.nodup_iff_pairwise_ne, List.pairwise_map]
  apply List.Pairwise.iff_of_mem
  intro field other isField isOther
  constructor
  · intro apart same
    exact apart (localOf_eq_of_name_eq same _)
  · exact localOf_ne_localOf targetName isField isOther

section

variable (config : Config) (target : Target) (parameters : List Parameter)

theorem length_parameterLocals :
    (parameterLocals config target parameters).length = parameters.length := by
  simp [parameterLocals]

theorem nodup_parameterLocals_iff :
    (parameterLocals config target parameters).Nodup ↔ (parameters.map (·.name)).Nodup := by
  unfold parameterLocals
  rw [nodup_locals_iff, List.map_map]
  rfl

/-- Locals are not empty when the names of the parameters are not. -/
theorem empty_not_mem_parameterLocals (filled : ∀ parameter ∈ parameters, parameter.name ≠ "") :
    "" ∉ parameterLocals config target parameters := by
  intro found
  obtain ⟨field, isField, isEmpty⟩ := List.mem_map.mp found
  obtain ⟨⟨n, underscores⟩, -⟩ := localOf_spec target.qualifiedName isField
  obtain ⟨parameter, declared, rfl⟩ := List.mem_map.mp isField
  rw [underscores, withUnderscores, String.append_eq_empty_iff] at isEmpty
  exact filled parameter declared isEmpty.1

end

/-! ### The body of the decoder -/

/-- The line that declares a local for a parameter. -/
def declarationText (parameter : Parameter) (x : String) : String :=
  parameter.type.toBoxed.render ++ " " ++ x ++ " = null;"

/-- The texts of a body that declares locals for parameters, behind a log line if there is one, and
in the end passes them to the constructor. -/
def DeclaresAll (target : Target) (parameters : List Parameter) (locals : List String)
    (texts : List String) : Prop :=
  ∃ between, texts =
    (if target.flags.debugLogs then ["LOGGER.log(Level.FINE, \"Reading json\");"] else []) ++
      List.zipWith declarationText parameters locals ++
      "reader.beginObject();" :: between ++
      ["return new " ++ target.qualifiedName ++ "(" ++ Text.join ", " locals ++ ");"]

theorem textsOf_declarations (config : Config) (parameters : List Parameter)
    (locals : List (String × String)) :
    textsOf ((parameters.map (Target.fieldOf config)).map (declareStep locals)) =
      List.zipWith declarationText parameters
        ((parameters.map (Target.fieldOf config)).map (localOf locals)) := by
  induction parameters with
  | nil => rfl
  | cons parameter rest ih =>
      simp only [List.map_cons, textsOf, ih, List.zipWith_cons_cons]
      simp [Step.texts, declareStep, declarationText, Target.fieldOf, String.append_assoc]

theorem declaresAll_decoder {config : Config} {target : Target} {parameters : List Parameter}
    {plan : DecodePlan}
    (planned : plan.fields.map (·.field) = parameters.map (Target.fieldOf config)) :
    DeclaresAll target parameters (parameterLocals config target parameters)
      (decoder target.qualifiedName plan target.flags.debugLogs).body.texts := by
  have logs : textsOf (whenLogging target.flags.debugLogs [logStep "\"Reading json\""]) =
      if target.flags.debugLogs then ["LOGGER.log(Level.FINE, \"Reading json\");"] else [] := by
    unfold whenLogging
    split <;> rfl
  rw [texts_decoder]
  unfold decoderSteps DeclaresAll
  simp only [textsOf_append, planned, logs, textsOf_declarations]
  unfold parameterLocals
  generalize textsOf (flow _ _) = loop
  generalize textsOf (List.flatMap _ _) = checks
  refine ⟨loop ++ ("reader.endObject();" :: checks), ?_⟩
  simp [textsOf, Step.texts, append_call_end]

end Emission

/-! ### Names of scanned parameters -/

namespace Source

theorem name_of_parameterOf {marker : Option String} {names : Names} {field : RecordField}
    {parameter : Parameter} (given : parameterOf marker names field = .ok parameter) :
    parameter.name = Naming.camelCase (withoutRawMark field.name) := by
  obtain ⟨type, -, given⟩ := bind_eq_ok_iff.mp given
  obtain ⟨annotations, -, given⟩ := bind_eq_ok_iff.mp given
  obtain ⟨key, -, given⟩ := bind_eq_ok_iff.mp given
  obtain rfl := Except.ok.inj given
  rfl

/-- The parameters of a scanned record are called by its fields in camel case. -/
theorem names_of_targetOf {marker : Option String} {known : List (String × String)}
    {candidate : Candidate} {target : Target} {fields : List RecordField}
    (shape : candidate.record.fields = .named fields)
    (given : targetOf marker known candidate = .ok target) :
    ∃ parameters, target.constructors = [parameters] ∧ parameters.map (·.name) =
      fields.map fun field => Naming.camelCase (withoutRawMark field.name) := by
  obtain ⟨parameters, single, own⟩ := constructor_of_targetOf shape given
  have each := own.imp fun _ _ => name_of_parameterOf
  have names := List.forall₂_map_left_iff.mpr (List.forall₂_map_right_iff.mpr each.flip)
  rw [List.forall₂_eq_eq_eq] at names
  exact ⟨parameters, single, names⟩

end Source

/-! ### Accepted targets -/

/-- The decoder of an accepted target declares a local for each parameter of its constructor and
passes them all on. They are apart exactly when the parameters have names of their own, and none is
empty when no name is. The parameters of a scanned record are called by its fields in camel case,
so it is there that the names must differ. -/
theorem decoder_locals_distinct_iff {config : Config} {target : Target} {emitted : EmittedTarget}
    (accepted : emitTarget config target = .ok emitted) :
    ∃ parameters locals adapter others decoder, target.constructors = [parameters] ∧
      emitted.units = adapter :: others ∧ adapter.kind = .adapter ∧
      adapter.file.decl.methods.find? (·.name == "fromJson") = some decoder ∧
      DeclaresAll target parameters locals decoder.body.texts ∧
      locals.length = parameters.length ∧
      (locals.Nodup ↔ (parameters.map (·.name)).Nodup) ∧
      ((∀ parameter ∈ parameters, parameter.name ≠ "") → "" ∉ locals) ∧
      ∀ marker known candidate fields, candidate.record.fields = .named fields →
        Source.targetOf marker known candidate = .ok target →
          parameters.map (·.name) =
            fields.map fun field => Naming.camelCase (Source.withoutRawMark field.name) := by
  obtain ⟨package, fields, -, -, isFields, planned, units⟩ := emitTarget_eq_ok_iff.mp accepted
  obtain ⟨parameters, single, -, rfl⟩ := Target.fields_eq_ok_iff.mp isFields
  obtain ⟨others, first⟩ := unitsOf_eq_cons config target package emitted.plan
  obtain ⟨-, plans⟩ := DecodePlan.build_eq_ok_iff.mp planned
  refine ⟨parameters, parameterLocals config target parameters, _, others, _, single,
    units.symm.trans first, rfl, rfl, declaresAll_decoder plans.fields,
    length_parameterLocals config target parameters,
    nodup_parameterLocals_iff config target parameters,
    empty_not_mem_parameterLocals config target parameters, ?_⟩
  intro marker known candidate fields shape given
  obtain ⟨given, isSingle, names⟩ := Source.names_of_targetOf shape given
  obtain rfl : parameters = given := by simpa [single] using isSingle
  exact names

/-- Two fields of a record that differ in camel case, one of them called like the reader. -/
theorem decoder_locals_distinct_of_scanned :
    let fields : List Source.RecordField :=
      [⟨[], "foo_bar", .path [] "i32" []⟩, ⟨[], "r#reader", .path [] "String" []⟩]
    let target : Target :=
      { qualifiedName := "a.P", package := some "a"
        constructors :=
          [[{ name := "fooBar", type := .primitive .int, jsonName := some "foo_bar" },
            { name := "reader", type := .string }]] }
    Source.targetOf none [] ⟨⟨[], true, "P", .named fields⟩, some "a", {}⟩ = .ok target ∧
      ∃ emitted locals decoder, emitTarget {} target = .ok emitted ∧
        DeclaresAll target target.constructors.flatten locals decoder ∧
        locals.Nodup ∧ "" ∉ locals := by
  intro fields target
  have accepted : emitTarget {} target = .ok _ := rfl
  obtain ⟨parameters, locals, adapter, others, decoder, single, -, -, -, declares, -, distinct,
    filled, -⟩ := decoder_locals_distinct_iff accepted
  obtain rfl : target.constructors.flatten = parameters := by simp [single]
  refine ⟨by decide +kernel, _, locals, _, accepted, declares, distinct.mpr (by decide), ?_⟩
  exact filled (by decide)

/-- Two fields of a record with one name in camel case share a local, and a field of underscores
has an empty one. -/
theorem scanned_fields_share_local :
    let scanned (fields : List Source.RecordField) : Except Source.ScanError Target :=
      Source.targetOf none [] ⟨⟨[], true, "P", .named fields⟩, some "a", {}⟩
    let target (parameters : List Parameter) : Target :=
      { qualifiedName := "a.P", package := some "a", constructors := [parameters] }
    let one : Parameter := { name := "fooBar", type := .primitive .int, jsonName := some "foo_bar" }
    let other : Parameter := { name := "fooBar", type := .primitive .int }
    let blank : Parameter := { name := "", type := .primitive .int, jsonName := some "__" }
    let body (parameters : List Parameter) (texts : List String) : Prop :=
      ∃ emitted adapter decoder, emitTarget {} (target parameters) = .ok emitted ∧
        emitted.units = [adapter] ∧
        adapter.file.decl.methods.find? (·.name == "fromJson") = some decoder ∧
        texts <+: decoder.body.texts
    scanned [⟨[], "foo_bar", .path [] "i32" []⟩, ⟨[], "fooBar", .path [] "i32" []⟩] =
        .ok (target [one, other]) ∧
      body [one, other] ["Integer fooBar = null;", "Integer fooBar = null;"] ∧
      scanned [⟨[], "__", .path [] "i32" []⟩] = .ok (target [blank]) ∧
      body [blank] ["Integer  = null;"] := by
  intro scanned target one other blank body
  refine ⟨by decide +kernel, ?_, by decide +kernel, ?_⟩
  · exact ⟨_, _, _, rfl, rfl, rfl, by decide +kernel⟩
  · exact ⟨_, _, _, rfl, rfl, rfl, by decide +kernel⟩

end AdapterGen
