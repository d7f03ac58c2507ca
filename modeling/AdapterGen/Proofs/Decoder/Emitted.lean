import AdapterGen.Proofs.Decoder.Correctness
import AdapterGen.Proofs.Emission.Accepted

/-!
# Emitted decoders

The adapter of an accepted target has a decoder that runs as the target's plan
says, whatever its fields and its methods are called by the target.

-/

namespace AdapterGen.Emission

open Code Java
open TypeDescriptor (WellFormed IsClassName isTypeName_iff isReference_iff parse_render
  wellFormed_of_parse)

/-! ### The adapter class -/

section

variable {J α ε : Type} (world : World J α ε) (config : Config) (target : Target)
  (package : String) (plan : DecodePlan)

theorem name_not_mem_classNames :
    ∀ field ∈ (adapterClass config target package plan).fields, field.name ∉ classNames := by
  have known : ∀ x ∈ ["LOGGER", "moshi", "factory", "type", "annotations"], x ∉ classNames := by
    simp [classNames, PrimitiveKind.all, PrimitiveKind.boxedName]
  intro field found
  refine known field.name ?_
  have isName : field.name ∈ (adapterClass config target package plan).fields.map (·.name) :=
    List.mem_map_of_mem found
  cases logs : target.flags.debugLogs with
  | false =>
      simp only [adapterClass, logs, List.map_append] at isName
      exact List.mem_cons_of_mem _ isName
  | true =>
      simp only [adapterClass, logs, List.map_append] at isName
      exact isName

/-- The fields of an adapter are those that its decoder refers to. -/
theorem members_adapterClass :
    Members (α := α) target.flags.debugLogs
      (fieldsOf (adapterClass config target package plan)) where
  moshi := by
    cases logs : target.flags.debugLogs <;>
      simp [fieldsOf, ClassDecl.field?, adapterClass, logs, loggerField, finalField, initialValue]
  logger logs := by
    simp [fieldsOf, ClassDecl.field?, adapterClass, logs, loggerField, initialValue]
  classes x isClass := by
    have absent : (adapterClass config target package plan).field? x = none := by
      refine List.find?_eq_none.mpr fun field found same => ?_
      have named : field.name = x := by simpa using same
      exact name_not_mem_classNames config target package plan field found (named ▸ isClass)
    rw [fieldsOf, absent]
    rfl

theorem parametersOf_decoder (debugLogs : Bool) (x : String) :
    parametersOf (α := α) (decoder target.qualifiedName plan debugLogs) x =
      if x = "reader" then some .reader else none := by
  by_cases own : x = "reader"
  · simp [parametersOf, decoder, own, initialValue]
  · simp [parametersOf, decoder, own, Ne.symm own]

/-- The decoder of an adapter of a sound plan runs as the plan says. -/
theorem runNamed?_adapterClass {plan : DecodePlan} (sound : SoundPlan plan)
    (isTarget : plan.target = target.qualifiedName) (entries : List (String × J)) {limit : Nat}
    (enough : entries.length < limit) :
    runNamed? world (adapterClass config target package plan) "fromJson" limit entries =
      some (plan.decode world entries) := by
  have isMember := members_adapterClass (α := α) config target package plan
  have isReader := parametersOf_decoder (α := α) target plan target.flags.debugLogs "reader"
  have others (x : String) (other : x ≠ "reader") :=
    (parametersOf_decoder (α := α) target plan target.flags.debugLogs x).trans (if_neg other)
  have ran := execAll_decoder world limit isMember sound isReader others entries enough
  have found : (adapterClass config target package plan).methods.find? (·.name == "fromJson") =
      some (decoder target.qualifiedName plan target.flags.debugLogs) := rfl
  have read : readBody? (decoder target.qualifiedName plan target.flags.debugLogs).body =
      some (decoderProgram plan.target plan target.flags.debugLogs) := by
    rw [decoder, ← isTarget]
    exact (spelled_decoder target.flags.debugLogs sound).readBody?
  simp only [runNamed?, found, read, bind, Option.bind, pure, runMethod_eq world ran]

end

/-! ### Accepted targets -/

/-- The plan of an accepted target is sound when its names are names of the language and its types
were parsed. -/
theorem soundPlan_of_build {config : Config} {name : String} {parameters : List Parameter}
    {plan : DecodePlan}
    (planned : DecodePlan.build name (parameters.map (Target.fieldOf config)) = .ok plan)
    (named : IsQualifiedName name) (distinct : (parameters.map (·.name)).Nodup)
    (identifiers : ∀ parameter ∈ parameters, IsIdentifier parameter.name)
    (parsed : ∀ parameter ∈ parameters, ∃ input, TypeDescriptor.parse input = .ok parameter.type) :
    SoundPlan plan := by
  obtain ⟨rfl, plans⟩ := DecodePlan.build_eq_ok_iff.mp planned
  refine ⟨named, fun p isPlan => ?_, fun p isPlan => ?_, plans.selected, ?_, plans.distinct⟩
  · obtain ⟨parameter, declared, same⟩ := plans.exists_parameter isPlan
    exact same ▸ identifiers parameter declared
  · obtain ⟨parameter, declared, same⟩ := plans.exists_parameter isPlan
    obtain ⟨input, read⟩ := parsed parameter declared
    exact same ▸ wellFormed_of_parse read
  · have names := congrArg (List.map (·.name)) plans.fields
    simp only [List.map_map, Function.comp_def, Target.fieldOf] at names
    exact names ▸ distinct

/-- The decoder emitted for a target runs on every object as the plan of its constructor's
parameters says, when the target and its parameters have names of the language and the types of
the parameters were parsed. -/
theorem run_fromJson_eq_decode {config : Config} {target : Target} {emitted : EmittedTarget}
    (accepted : emitTarget config target = .ok emitted)
    (named : IsQualifiedName target.qualifiedName)
    (declared : ∀ parameters ∈ target.constructors, (parameters.map (·.name)).Nodup ∧
      ∀ parameter ∈ parameters, IsIdentifier parameter.name ∧
        ∃ input, TypeDescriptor.parse input = .ok parameter.type) :
    ∃ parameters adapter others, target.constructors = [parameters] ∧
      emitted.units = adapter :: others ∧ adapter.kind = .adapter ∧
      emitted.plan.target = target.qualifiedName ∧
      DecodePlan.Plans target.qualifiedName [] (parameters.map (Target.fieldOf config))
        emitted.plan.fields ∧
      ∀ {J α ε : Type} (world : World J α ε) (entries : List (String × J)) (limit : Nat),
        entries.length < limit →
          runNamed? world adapter.file.decl "fromJson" limit entries =
            some (emitted.plan.decode world entries) := by
  obtain ⟨package, fields, -, -, isFields, planned, units⟩ := emitTarget_eq_ok_iff.mp accepted
  obtain ⟨parameters, single, -, rfl⟩ := Target.fields_eq_ok_iff.mp isFields
  obtain ⟨others, first⟩ := unitsOf_eq_cons config target package emitted.plan
  obtain ⟨isTarget, plans⟩ := DecodePlan.build_eq_ok_iff.mp planned
  obtain ⟨distinct, parameterNames⟩ := declared parameters (single ▸ List.mem_singleton_self _)
  have sound := soundPlan_of_build planned named distinct
    (fun parameter found => (parameterNames parameter found).1)
    (fun parameter found => (parameterNames parameter found).2)
  refine ⟨parameters, _, others, single, units.symm.trans first, rfl, isTarget, plans, ?_⟩
  intro J α ε world entries limit enough
  exact runNamed?_adapterClass world config target package sound isTarget entries enough

/-- A decoder with a parameter called like its reader, a nullable list and a repeated key. -/
theorem run_fromJson_person :
    let person : Target :=
      { qualifiedName := "demo.Person", package := some "demo", flags := { debugLogs := true }
        constructors :=
          [[{ name := "reader", type := .string },
            { name := "tags", type := .reference "java.util.List" [.string],
              annotations := ["androidx.annotation.Nullable"] },
            { name := "years", type := .primitive .int, jsonName := some "age" }]] }
    let world : World (Option Nat) Nat Unit :=
      { peek := fun value => if value.isNone then "NULL" else "NUMBER"
        scalar := fun _ value => .ok value
        narrow := fun _ n => n
        adapted := fun _ value => .ok value }
    ∃ emitted adapter others, emitTarget {} person = .ok emitted ∧
      emitted.units = adapter :: others ∧
      runNamed? world adapter.file.decl "fromJson" 6
          [("age", some 3), ("other", some 5), ("reader", some 7), ("age", some 4),
            ("tags", none)] =
        some (.ok (.created "demo.Person" [.object 7, .null, .object 4])) ∧
      runNamed? world adapter.file.decl "fromJson" 6 [("age", some 3)] =
        some (.error (.ioException (missingFieldMessage "reader"))) := by
  intro person world
  have accepted : emitTarget {} person = .ok _ := rfl
  have parsed : ∀ parameter ∈ person.constructors.flatten, IsIdentifier parameter.name ∧
      ∃ input, TypeDescriptor.parse input = .ok parameter.type := by
    have listName : IsClassName "java.util.List" :=
      ⟨isTypeName_iff.mp (by decide), List.all_eq_true.mp rfl, isReference_iff.mpr (by decide)⟩
    have list : WellFormed false (.reference "java.util.List" [.string]) :=
      .reference listName (List.forall_mem_singleton.mpr .string)
    refine List.forall_mem_cons.mpr ⟨⟨by decide, _, parse_render .string⟩, ?_⟩
    refine List.forall_mem_cons.mpr ⟨⟨by decide, _, parse_render list⟩, ?_⟩
    exact List.forall_mem_singleton.mpr ⟨by decide, _, parse_render (.primitive .int)⟩
  obtain ⟨parameters, adapter, others, -, units, -, -, -, run⟩ :=
    run_fromJson_eq_decode accepted (by decide +kernel)
      (List.forall_mem_singleton.mpr ⟨by decide +kernel, parsed⟩)
  exact ⟨_, adapter, others, accepted, units, (run world _ 6 (by decide)).trans rfl,
    (run world _ 6 (by decide)).trans rfl⟩

end AdapterGen.Emission
