import AdapterGen.Proofs.Emission.Accepted
import Mathlib.Data.List.Induction
import Mathlib.Data.List.Nodup

/-!
# The rules on targets

A target is accepted exactly when it keeps all rules, and is refused with the
first rule that it breaks otherwise. Of the parameters it is the first that
breaks one, and a repeated key comes before a type that cannot be read.

## Implementation notes

Fields are planned with the keys of those before them. A plan of the front of a
list hands exactly these keys on, so that the first field to stop the planning is
the first that breaks a rule behind the front.

-/

namespace AdapterGen

/-- The JSON key of a parameter: the one declared for it, else its name. -/
def Parameter.key (parameter : Parameter) : String := parameter.jsonName.getD parameter.name

@[simp] theorem Target.jsonName_fieldOf (config : Config) (parameter : Parameter) :
    (fieldOf config parameter).jsonName = parameter.key := rfl

/-- A type that cannot be read: `byte`, `char`, a wrapper of them, or an array of a primitive. -/
def Unreadable (type : TypeDescriptor) : Prop :=
  (∃ kind : PrimitiveKind, (kind = .byte ∨ kind = .char) ∧
    (type = .primitive kind ∨ type = .boxed kind)) ∨
  ∃ kind, type = .array (.primitive kind)

/-- Parameters of which a plan is made: no key repeats, and every type can be read. -/
structure Decodable (parameters : List Parameter) : Prop where
  distinct : (parameters.map Parameter.key).Nodup
  readable : ∀ p ∈ parameters, ¬ Unreadable p.type

/-- The error about a field of a class whose type cannot be read. -/
inductive NoRead (className field : String) (type : TypeDescriptor) : GenerateError → Prop
  | scalar {kind : PrimitiveKind} : kind = .byte ∨ kind = .char →
      type = .primitive kind ∨ type = .boxed kind →
        NoRead className field type (.unsupportedPrimitive className field kind)
  | array {kind : PrimitiveKind} : type = .array (.primitive kind) →
      NoRead className field type (.unsupportedPrimitiveArray className field type.render)

/-- The error about a parameter behind others, whose keys are given. -/
inductive BreaksRule (className : String) (keys : List String) (p : Parameter) :
    GenerateError → Prop
  | repeatedKey : p.key ∈ keys → BreaksRule className keys p (.duplicateJsonKey className p.key)
  | unreadable {error : GenerateError} : p.key ∉ keys → NoRead className p.name p.type error →
      BreaksRule className keys p error

namespace Target

/-- A class from elsewhere can create one. -/
def Accessible (target : Target) : Prop :=
  target.visibility.isPublic = true ∧ target.visibility.isAbstract = false

/-- The rules that an accepted target keeps. -/
structure Supported (target : Target) : Prop where
  accessible : target.Accessible
  inPackage : ∃ package, target.package = some package
  decodable : ∃ parameters, target.constructors = [parameters] ∧ parameters ≠ [] ∧
    Decodable parameters

/-- The first rule that a target breaks. -/
inductive FirstViolation (target : Target) : GenerateError → Prop
  | notPublic : target.visibility.isPublic = false →
      FirstViolation target (.invalidVisibility target.qualifiedName .notPublic)
  | isAbstract : target.visibility.isPublic = true → target.visibility.isAbstract = true →
      FirstViolation target (.invalidVisibility target.qualifiedName .isAbstract)
  | unknownPackage : target.Accessible → target.package = none →
      FirstViolation target (.unknownPackage target.qualifiedName)
  | missingConstructor {package : String} : target.Accessible → target.package = some package →
      target.constructors = [] → FirstViolation target (.missingConstructor target.qualifiedName)
  | multipleConstructors {package : String} : target.Accessible → target.package = some package →
      2 ≤ target.constructors.length →
        FirstViolation target
          (.multipleConstructors target.qualifiedName target.constructors.length)
  | emptyConstructor {package : String} : target.Accessible → target.package = some package →
      target.constructors = [[]] → FirstViolation target (.emptyConstructor target.qualifiedName)
  | parameter {package : String} {before after : List Parameter} {p : Parameter}
      {error : GenerateError} : target.Accessible → target.package = some package →
        target.constructors = [before ++ p :: after] → Decodable before →
          BreaksRule target.qualifiedName (before.map Parameter.key) p error →
            FirstViolation target error

end Target

/-! ### Reads -/

theorem unreadable_iff (className field : String) {type : TypeDescriptor} :
    Unreadable type ↔ ∃ error, NoRead className field type error := by
  constructor
  · rintro (⟨kind, isUnread, isKind⟩ | ⟨kind, isArray⟩)
    · exact ⟨_, .scalar isUnread isKind⟩
    · exact ⟨_, .array isArray⟩
  · rintro ⟨error, noRead⟩
    cases noRead with
    | scalar isUnread isKind => exact .inl ⟨_, isUnread, isKind⟩
    | array isArray => exact .inr ⟨_, isArray⟩

namespace DecodeStrategy

theorem select_eq_error_of_noRead {className : String} {field : Field} {error : GenerateError}
    (noRead : NoRead className field.name field.type error) :
    select className field = .error error := by
  cases noRead with
  | scalar isUnread isKind =>
      rcases isUnread with rfl | rfl <;> rcases isKind with isKind | isKind <;>
        simp only [select, isKind, scalar?]
  | array isArray => simp only [select, isArray]

theorem exists_select_eq_ok (className : String) (field : Field)
    (readable : ¬ Unreadable field.type) : ∃ strategy, select className field = .ok strategy := by
  have scalar (kind : PrimitiveKind)
      (isKind : field.type = .primitive kind ∨ field.type = .boxed kind) :
      ∃ read, scalar? kind = some read := by
    cases kind with
    | byte => exact absurd (.inl ⟨.byte, .inl rfl, isKind⟩) readable
    | char => exact absurd (.inl ⟨.char, .inr rfl, isKind⟩) readable
    | boolean | short | int | long | float | double => exact ⟨_, rfl⟩
  unfold select
  split
  · rename_i kind isKind
    obtain ⟨⟨method, narrowTo⟩, read⟩ := scalar kind (.inl isKind)
    exact ⟨_, by rw [read]⟩
  · rename_i kind isKind
    obtain ⟨⟨method, narrowTo⟩, read⟩ := scalar kind (.inr isKind)
    exact ⟨_, by rw [read]⟩
  · exact ⟨_, rfl⟩
  · rename_i kind isArray
    exact absurd (.inr ⟨kind, isArray⟩) readable
  · exact ⟨_, rfl⟩

theorem readable_of_select_eq_ok {className : String} {field : Field} {strategy : DecodeStrategy}
    (selected : select className field = .ok strategy) : ¬ Unreadable field.type := by
  intro unreadable
  obtain ⟨error, noRead⟩ := (unreadable_iff className field.name).mp unreadable
  cases (select_eq_error_of_noRead noRead).symm.trans selected

end DecodeStrategy

/-! ### Planning -/

namespace DecodePlan

variable {className : String} {config : Config} {parameters : List Parameter}

theorem keys_fieldOf (config : Config) (parameters : List Parameter) :
    (parameters.map (Target.fieldOf config)).map (·.jsonName) = parameters.map Parameter.key := by
  rw [List.map_map]
  rfl

theorem exists_plans_iff (className : String) (config : Config) :
    (∃ plans, Plans className [] (parameters.map (Target.fieldOf config)) plans) ↔
      Decodable parameters := by
  constructor
  · rintro ⟨plans, fields, selected, distinct, -⟩
    constructor
    · rwa [← keys_fieldOf config, ← fields, List.map_map]
    · intro p isParameter
      have isField : Target.fieldOf config p ∈ plans.map (·.field) :=
        fields ▸ List.mem_map_of_mem isParameter
      obtain ⟨plan, isPlan, same⟩ := List.mem_map.mp isField
      have readable := DecodeStrategy.readable_of_select_eq_ok (selected plan isPlan)
      rwa [same] at readable
  · rintro ⟨distinct, readable⟩
    have planned : ∃ plans : List FieldPlan,
        plans.map (·.field) = parameters.map (Target.fieldOf config) ∧
          ∀ p ∈ plans, DecodeStrategy.select className p.field = .ok p.strategy := by
      clear distinct
      induction parameters with
      | nil => exact ⟨[], rfl, by simp⟩
      | cons p others ih =>
          obtain ⟨first, later⟩ := List.forall_mem_cons.mp readable
          obtain ⟨strategy, selected⟩ :=
            DecodeStrategy.exists_select_eq_ok className (Target.fieldOf config p) first
          obtain ⟨plans, fields, allSelected⟩ := ih later
          exact ⟨⟨_, strategy⟩ :: plans, congrArg (_ :: ·) fields,
            List.forall_mem_cons.mpr ⟨selected, allSelected⟩⟩
    obtain ⟨plans, fields, selected⟩ := planned
    have keys : plans.map (·.field.jsonName) = parameters.map Parameter.key := by
      rw [← keys_fieldOf config, ← fields, List.map_map]
      rfl
    exact ⟨plans, fields, selected, keys ▸ distinct, by simp⟩

/-- Behind planned fields, planning goes on with their keys among those seen. -/
theorem planFields_append {seen : List String} {before rest : List Field} {plans : List FieldPlan}
    (isPlan : Plans className seen before plans) :
    (planFields className seen (before ++ rest)).2 =
      (planFields className ((before.map (·.jsonName)).reverse ++ seen) rest).2 := by
  induction before generalizing seen plans with
  | nil => rfl
  | cons field before ih =>
      obtain ⟨free, strategy, others, selected, rfl, isRest⟩ := plans_cons_iff.mp isPlan
      have unseen : seen.contains field.jsonName = false := by simpa using free
      rw [List.cons_append, planFields, unseen, List.map_cons, List.reverse_cons, List.append_assoc,
        List.singleton_append, ← ih isRest]
      simp only [selected, Bool.false_eq_true, if_false]

theorem planFields_of_breaks {keys seen : List String} {p : Parameter} {rest : List Field}
    {error : GenerateError} (breaks : BreaksRule className keys p error)
    (same : ∀ key, key ∈ seen ↔ key ∈ keys) :
    (planFields className seen (Target.fieldOf config p :: rest)).2 = some error := by
  cases breaks with
  | repeatedKey repeated =>
      have isSeen : seen.contains (Target.fieldOf config p).jsonName = true := by
        simpa [same] using repeated
      rw [planFields, isSeen]
      rfl
  | unreadable free noRead =>
      have unseen : seen.contains (Target.fieldOf config p).jsonName = false := by
        simpa [same] using free
      have failed : DecodeStrategy.select className (Target.fieldOf config p) = .error error :=
        DecodeStrategy.select_eq_error_of_noRead noRead
      rw [planFields, unseen, failed]
      rfl

theorem build_of_breaks {before : List Parameter} (after : List Parameter) {p : Parameter}
    {error : GenerateError} (decodable : Decodable before)
    (breaks : BreaksRule className (before.map Parameter.key) p error) :
    build className ((before ++ p :: after).map (Target.fieldOf config)) = .error error := by
  obtain ⟨plans, isPlan⟩ := (exists_plans_iff className config).mpr decodable
  have stopped : (planFields className []
      ((before ++ p :: after).map (Target.fieldOf config))).2 = some error := by
    rw [List.map_append, List.map_cons, planFields_append isPlan, keys_fieldOf]
    exact planFields_of_breaks breaks (by simp)
  unfold build
  split
  · rename_i planned
    rw [planned] at stopped
    contradiction
  · rename_i other planned
    rw [planned] at stopped
    rw [Option.some.inj stopped]

end DecodePlan

/-- Parameters are decodable, or one of them is the first to break a rule. -/
theorem decodable_or_breaks (className : String) (parameters : List Parameter) :
    Decodable parameters ∨ ∃ before p after error, parameters = before ++ p :: after ∧
      Decodable before ∧ BreaksRule className (before.map Parameter.key) p error := by
  induction parameters using List.reverseRecOn with
  | nil => exact .inl ⟨List.nodup_nil, by simp⟩
  | append_singleton front p ih =>
      rcases ih with decodable | ⟨before, q, after, error, rfl, decodable, breaks⟩
      · have last {error : GenerateError}
            (breaks : BreaksRule className (front.map Parameter.key) p error) :
            ∃ before q after error, front ++ [p] = before ++ q :: after ∧ Decodable before ∧
              BreaksRule className (before.map Parameter.key) q error :=
          ⟨front, p, [], error, rfl, decodable, breaks⟩
        by_cases repeated : p.key ∈ front.map Parameter.key
        · exact .inr (last (.repeatedKey repeated))
        · by_cases unreadable : Unreadable p.type
          · obtain ⟨error, noRead⟩ :=
              (unreadable_iff className p.name).mp unreadable
            exact .inr (last (.unreadable repeated noRead))
          · refine .inl ⟨?_, ?_⟩
            · rw [List.map_append, List.map_singleton, ← List.concat_eq_append]
              exact List.Nodup.concat repeated decodable.distinct
            · intro q isParameter
              rcases List.mem_append.mp isParameter with earlier | isLast
              · exact decodable.readable q earlier
              · exact List.mem_singleton.mp isLast ▸ unreadable
      · exact .inr ⟨before, q, after ++ [p], error, by simp, decodable, breaks⟩

/-! ### Targets -/

namespace Emission

variable {config : Config} {target : Target}

theorem checkVisibility_eq_ok_iff : target.checkVisibility = .ok () ↔ target.Accessible := by
  unfold Target.checkVisibility Target.Accessible
  cases target.visibility.isPublic <;> cases target.visibility.isAbstract <;> simp

theorem exists_emitTarget_eq_ok_iff (config : Config) (target : Target) :
    (∃ emitted, emitTarget config target = .ok emitted) ↔ target.Supported := by
  constructor
  · rintro ⟨emitted, accepted⟩
    obtain ⟨package, fields, visible, inPackage, isFields, planned, -⟩ :=
      emitTarget_eq_ok_iff.mp accepted
    obtain ⟨parameters, single, nonempty, rfl⟩ := Target.fields_eq_ok_iff.mp isFields
    have plans := (DecodePlan.build_eq_ok_iff.mp planned).2
    exact ⟨checkVisibility_eq_ok_iff.mp visible, ⟨package, inPackage⟩, parameters, single, nonempty,
      (DecodePlan.exists_plans_iff _ _).mp ⟨_, plans⟩⟩
  · rintro ⟨accessible, ⟨package, inPackage⟩, parameters, single, nonempty, decodable⟩
    obtain ⟨plans, isPlan⟩ :=
      (DecodePlan.exists_plans_iff target.qualifiedName config).mpr decodable
    let plan : DecodePlan := ⟨target.qualifiedName, plans⟩
    refine ⟨⟨plan, unitsOf config target package plan⟩, emitTarget_eq_ok_iff.mpr ?_⟩
    exact ⟨package, _, checkVisibility_eq_ok_iff.mpr accessible, inPackage,
      Target.fields_eq_ok_iff.mpr ⟨parameters, single, nonempty, rfl⟩,
      DecodePlan.build_eq_ok_iff.mpr ⟨rfl, isPlan⟩, rfl⟩

/-- What follows the checks of the class and its package. -/
theorem emitTarget_of_accessible {package : String} (accessible : target.Accessible)
    (inPackage : target.package = some package) :
    emitTarget config target = (do
      let fields ← target.fields config
      let plan ← DecodePlan.build target.qualifiedName fields
      return ⟨plan, unitsOf config target package plan⟩) := by
  rw [emitTarget, checkVisibility_eq_ok_iff.mpr accessible, Target.requirePackage, inPackage]
  rfl

theorem emitTarget_of_firstViolation (config : Config) {error : GenerateError}
    (violation : target.FirstViolation error) : emitTarget config target = .error error := by
  have stopped {package : String} {error : GenerateError} (accessible : target.Accessible)
      (inPackage : target.package = some package) (failed : target.fields config = .error error) :
      emitTarget config target = .error error := by
    rw [emitTarget_of_accessible accessible inPackage, failed]
    rfl
  cases violation with
  | notPublic hidden =>
      rw [emitTarget, Target.checkVisibility, hidden]
      rfl
  | isAbstract isPublic isAbstract =>
      rw [emitTarget, Target.checkVisibility, isPublic, isAbstract]
      rfl
  | unknownPackage accessible noPackage =>
      rw [emitTarget, checkVisibility_eq_ok_iff.mpr accessible, Target.requirePackage, noPackage]
      rfl
  | missingConstructor accessible inPackage none =>
      exact stopped accessible inPackage (by rw [Target.fields, none])
  | multipleConstructors accessible inPackage several =>
      refine stopped accessible inPackage ?_
      obtain ⟨first, second, others, shape⟩ : ∃ first second others,
          target.constructors = first :: second :: others := by
        rcases shape : target.constructors with _ | ⟨first, _ | ⟨second, others⟩⟩
        · simp [shape] at several
        · simp [shape] at several
        · exact ⟨first, second, others, rfl⟩
      rw [Target.fields, shape]
      cases first <;> rfl
  | emptyConstructor accessible inPackage single =>
      exact stopped accessible inPackage (by rw [Target.fields, single])
  | @parameter package before after p error accessible inPackage single decodable breaks =>
      have isFields : target.fields config =
          .ok ((before ++ p :: after).map (Target.fieldOf config)) :=
        Target.fields_eq_ok_iff.mpr ⟨_, single, by simp, rfl⟩
      rw [emitTarget_of_accessible accessible inPackage, isFields]
      have failed : DecodePlan.build target.qualifiedName
          ((before ++ p :: after).map (Target.fieldOf config)) = .error error :=
        DecodePlan.build_of_breaks after decodable breaks
      exact bind_eq_error_iff.mpr (.inr ⟨_, rfl, bind_eq_error_iff.mpr (.inl failed)⟩)

theorem supported_or_firstViolation (target : Target) :
    target.Supported ∨ ∃ error, target.FirstViolation error := by
  by_cases accessible : target.Accessible
  · cases inPackage : target.package with
    | none => exact .inr ⟨_, .unknownPackage accessible inPackage⟩
    | some package =>
        match shape : target.constructors with
        | [] => exact .inr ⟨_, .missingConstructor accessible inPackage shape⟩
        | [[]] => exact .inr ⟨_, .emptyConstructor accessible inPackage shape⟩
        | [first :: others] =>
            rcases decodable_or_breaks target.qualifiedName (first :: others) with
              decodable | ⟨before, p, after, error, split, decodable, breaks⟩
            · exact .inl ⟨accessible, ⟨package, inPackage⟩, _, shape, by simp, decodable⟩
            · exact .inr ⟨error, .parameter accessible inPackage (split ▸ shape) decodable breaks⟩
        | first :: second :: others =>
            have several : 2 ≤ target.constructors.length := by simp [shape]
            exact .inr ⟨_, .multipleConstructors accessible inPackage several⟩
  · cases isPublic : target.visibility.isPublic with
    | false => exact .inr ⟨_, .notPublic isPublic⟩
    | true =>
        cases isAbstract : target.visibility.isAbstract with
        | false => exact absurd ⟨isPublic, isAbstract⟩ accessible
        | true => exact .inr ⟨_, .isAbstract isPublic isAbstract⟩

theorem emitTarget_eq_error_iff {error : GenerateError} :
    emitTarget config target = .error error ↔ target.FirstViolation error := by
  constructor
  · intro failed
    rcases supported_or_firstViolation target with supported | ⟨other, violation⟩
    · obtain ⟨emitted, accepted⟩ := (exists_emitTarget_eq_ok_iff config target).mpr supported
      cases failed.symm.trans accepted
    · have same := (emitTarget_of_firstViolation config violation).symm.trans failed
      exact Except.error.inj same ▸ violation
  · exact emitTarget_of_firstViolation config

theorem typeName_of_firstViolation {error : GenerateError}
    (violation : target.FirstViolation error) : error.typeName = target.qualifiedName := by
  cases violation with
  | parameter _ _ _ _ breaks =>
      cases breaks with
      | repeatedKey => rfl
      | unreadable _ noRead => cases noRead <;> rfl
  | notPublic | isAbstract | unknownPackage | missingConstructor | multipleConstructors
  | emptyConstructor => rfl

/-- The field that is made of a parameter. -/
structure Declares (config : Config) (p : Parameter) (field : Field) : Prop where
  name : field.name = p.name
  jsonName : field.jsonName = p.key
  type : field.type = p.type
  nullable : field.nullable = true ↔
    ∃ annotation ∈ p.annotations, config.isNullableMarker annotation = true

theorem declares_fieldOf (config : Config) (p : Parameter) :
    Declares config p (Target.fieldOf config p) where
  name := rfl
  jsonName := rfl
  type := rfl
  nullable := List.any_eq_true

theorem emitTarget_declares {emitted : EmittedTarget}
    (accepted : emitTarget config target = .ok emitted) :
    emitted.plan.target = target.qualifiedName ∧ ∃ parameters, target.constructors = [parameters] ∧
      List.Forall₂ (Declares config) parameters (emitted.plan.fields.map (·.field)) := by
  obtain ⟨package, fields, -, -, isFields, planned, -⟩ := emitTarget_eq_ok_iff.mp accepted
  obtain ⟨parameters, single, -, rfl⟩ := Target.fields_eq_ok_iff.mp isFields
  obtain ⟨isTarget, plans⟩ := DecodePlan.build_eq_ok_iff.mp planned
  refine ⟨isTarget, parameters, single, ?_⟩
  rw [plans.fields, List.forall₂_map_right_iff]
  exact List.forall₂_same.mpr fun p _ => declares_fieldOf config p

/-- Exactly the supported targets are accepted, and any other is refused with the first rule that
it breaks. The error names the target. The plan of an accepted target has the parameters as its
fields, in order. -/
theorem emitTarget_reports_first_violation (config : Config) (target : Target) :
    ((∃ emitted, emitTarget config target = .ok emitted) ↔ target.Supported) ∧
    (∀ error, emitTarget config target = .error error ↔ target.FirstViolation error) ∧
    (∀ error, emitTarget config target = .error error → error.typeName = target.qualifiedName) ∧
    (∀ emitted, emitTarget config target = .ok emitted →
      emitted.plan.target = target.qualifiedName ∧
      ∃ parameters, target.constructors = [parameters] ∧
        List.Forall₂ (Declares config) parameters (emitted.plan.fields.map (·.field))) := by
  refine ⟨exists_emitTarget_eq_ok_iff config target, fun _ => emitTarget_eq_error_iff, ?_,
    fun _ => emitTarget_declares⟩
  intro error failed
  exact typeName_of_firstViolation (emitTarget_eq_error_iff.mp failed)

end Emission

end AdapterGen
