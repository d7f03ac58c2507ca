import AdapterGen.Emission
import AdapterGen.Proofs.Outcome

/-!
# Accepted targets

Units are emitted for a target whose one constructor has parameters, each of
which gives a field with a read of its own and a key of its own.
-/

namespace AdapterGen

open Emission

/-! ### Fields -/

theorem Target.fields_eq_ok_iff {target : Target} {config : Config} {fields : List Field} :
    target.fields config = .ok fields ↔
      ∃ parameters, target.constructors = [parameters] ∧ parameters ≠ [] ∧
        parameters.map (Target.fieldOf config) = fields := by
  constructor
  · intro accepted
    unfold Target.fields at accepted
    split at accepted
    · nomatch accepted
    · nomatch accepted
    · rename_i parameters nonempty single
      exact ⟨parameters, single, nonempty, Except.ok.inj accepted⟩
    · nomatch accepted
  · rintro ⟨parameters, single, nonempty, rfl⟩
    obtain ⟨first, others, rfl⟩ := List.exists_cons_of_ne_nil nonempty
    simp only [Target.fields, single]

namespace DecodePlan

/-- The plans of fields: each field with the read of its type, and its key neither twice nor among
those seen before. -/
structure Plans (target : String) (seen : List String) (fields : List Field)
    (plans : List FieldPlan) : Prop where
  fields : plans.map (·.field) = fields
  selected : ∀ p ∈ plans, DecodeStrategy.select target p.field = .ok p.strategy
  distinct : (plans.map (·.field.jsonName)).Nodup
  unseen : ∀ p ∈ plans, p.field.jsonName ∉ seen

theorem plans_cons_iff {target : String} {seen : List String} {field : Field} {rest : List Field}
    {plans : List FieldPlan} :
    Plans target seen (field :: rest) plans ↔
      field.jsonName ∉ seen ∧ ∃ strategy others,
        DecodeStrategy.select target field = .ok strategy ∧ plans = ⟨field, strategy⟩ :: others ∧
        Plans target (field.jsonName :: seen) rest others := by
  constructor
  · intro isPlan
    cases plans with
    | nil => nomatch isPlan.fields
    | cons p others =>
        obtain ⟨rfl, fields⟩ := List.cons.inj isPlan.fields
        obtain ⟨first, selected⟩ := List.forall_mem_cons.mp isPlan.selected
        obtain ⟨notLater, distinct⟩ := List.nodup_cons.mp isPlan.distinct
        obtain ⟨free, unseen⟩ := List.forall_mem_cons.mp isPlan.unseen
        refine ⟨free, p.strategy, others, first, rfl, fields, selected, distinct, ?_⟩
        intro q isOther found
        rcases List.mem_cons.mp found with same | earlier
        · exact notLater (List.mem_map.mpr ⟨q, isOther, same⟩)
        · exact unseen q isOther earlier
  · rintro ⟨free, strategy, others, first, rfl, fields, selected, distinct, unseen⟩
    have notLater : field.jsonName ∉ others.map (·.field.jsonName) := by
      intro found
      obtain ⟨q, isOther, same⟩ := List.mem_map.mp found
      exact unseen q isOther (same ▸ List.mem_cons_self)
    refine ⟨congrArg (field :: ·) fields, List.forall_mem_cons.mpr ⟨first, selected⟩,
      List.nodup_cons.mpr ⟨notLater, distinct⟩, List.forall_mem_cons.mpr ⟨free, ?_⟩⟩
    exact fun q isOther earlier => unseen q isOther (List.mem_cons_of_mem _ earlier)

theorem planFields_iff {target : String} {seen : List String} {fields : List Field}
    {plans : List FieldPlan} :
    planFields target seen fields = (plans, none) ↔ Plans target seen fields plans := by
  induction fields generalizing seen plans with
  | nil =>
      constructor
      · intro planned
        obtain rfl : plans = [] := by simpa [planFields, eq_comm] using planned
        exact ⟨rfl, by simp, by simp, by simp⟩
      · intro isPlan
        obtain rfl := List.map_eq_nil_iff.mp isPlan.fields
        rfl
  | cons field rest ih =>
      rw [plans_cons_iff, planFields]
      split
      · rename_i isSeen
        simp [show field.jsonName ∈ seen by simpa using isSeen]
      · rename_i notSeen
        have free : field.jsonName ∉ seen := by simpa using notSeen
        cases read : DecodeStrategy.select target field with
        | error error => simp
        | ok strategy =>
            simp only [← ih, free, not_false_iff, true_and]
            constructor
            · intro planned
              obtain ⟨rfl, stopped⟩ := Prod.mk.inj planned
              exact ⟨strategy, _, rfl, rfl, Prod.ext rfl stopped⟩
            · rintro ⟨_, others, ⟨rfl⟩, rfl, planned⟩
              rw [planned]

/-- A plan is built exactly when each field has a read and no key repeats. -/
theorem build_eq_ok_iff {target : String} {fields : List Field} {plan : DecodePlan} :
    build target fields = .ok plan ↔
      plan.target = target ∧ Plans target [] fields plan.fields := by
  unfold build
  rw [← planFields_iff]
  split
  · rename_i plans planned
    rw [planned]
    constructor
    · rintro ⟨rfl⟩
      exact ⟨rfl, rfl⟩
    · rintro ⟨rfl, same⟩
      obtain rfl : plans = plan.fields := congrArg Prod.fst same
      rfl
  · rename_i plans error stopped
    simp [stopped]

/-- A planned field is that of a parameter. -/
theorem Plans.exists_parameter {target : String} {config : Config} {seen : List String}
    {parameters : List Parameter} {plans : List FieldPlan}
    (isPlan : Plans target seen (parameters.map (Target.fieldOf config)) plans) {p : FieldPlan}
    (found : p ∈ plans) : ∃ parameter ∈ parameters, Target.fieldOf config parameter = p.field := by
  have isField : p.field ∈ plans.map (·.field) := List.mem_map_of_mem found
  exact List.mem_map.mp (isPlan.fields ▸ isField)

end DecodePlan

/-! ### Units -/

/-- What stands behind the adapter of a target does not depend on its plan. -/
theorem Emission.exists_unitsOf_eq_cons (config : Config) (target : Target) (package : String) :
    ∃ others, ∀ plan, unitsOf config target package plan =
      ⟨.adapter, package, adapterClass config target package plan⟩ :: others := by
  unfold unitsOf
  dsimp only
  split <;> exact ⟨_, fun _ => rfl⟩

/-- The adapter of a target comes before its factory. -/
theorem Emission.unitsOf_eq_cons (config : Config) (target : Target) (package : String)
    (plan : DecodePlan) :
    ∃ others, unitsOf config target package plan =
      ⟨.adapter, package, adapterClass config target package plan⟩ :: others :=
  (exists_unitsOf_eq_cons config target package).imp fun _ same => same plan

/-- What is emitted for an accepted target. -/
theorem Emission.emitTarget_eq_ok_iff {config : Config} {target : Target}
    {emitted : EmittedTarget} :
    emitTarget config target = .ok emitted ↔
      ∃ package fields, target.checkVisibility = .ok () ∧ target.package = some package ∧
        target.fields config = .ok fields ∧
        DecodePlan.build target.qualifiedName fields = .ok emitted.plan ∧
        unitsOf config target package emitted.plan = emitted.units := by
  constructor
  · intro emission
    obtain ⟨_, visible, emission⟩ := bind_eq_ok_iff.mp emission
    obtain ⟨package, inPackage, emission⟩ := bind_eq_ok_iff.mp emission
    obtain ⟨fields, isFields, emission⟩ := bind_eq_ok_iff.mp emission
    obtain ⟨plan, planned, emission⟩ := bind_eq_ok_iff.mp emission
    obtain rfl := Except.ok.inj emission
    refine ⟨package, fields, visible, ?_, isFields, planned, rfl⟩
    unfold Target.requirePackage at inPackage
    split at inPackage
    · rename_i known
      rw [known, Except.ok.inj inPackage]
    · nomatch inPackage
  · rintro ⟨package, fields, visible, known, isFields, planned, units⟩
    simp only [emitTarget, visible, Target.requirePackage, known, isFields, planned, units, bind,
      Except.bind, pure, Except.pure]

/-- The entry of a target's own factory. -/
def Emission.ownRef (config : Config) (target : Target) (package : String) : AdapterRef :=
  ⟨target.qualifiedName, Naming.qualify package (adapterName config target.simpleName)⟩

/-- A unit of an accepted target is its adapter or its factory. -/
theorem Emission.eq_of_mem_units {config : Config} {target : Target} {package : String}
    {emitted : EmittedTarget} (inPackage : target.package = some package)
    (accepted : emitTarget config target = .ok emitted) {unit : EmittedUnit}
    (isUnit : unit ∈ emitted.units) :
    unit = ⟨.adapter, package, adapterClass config target package emitted.plan⟩ ∨
    unit = ⟨.factory, package, factoryClass config (factoryName config target.simpleName) package
      [ownRef config target package]⟩ := by
  obtain ⟨home, fields, -, isHome, -, -, units⟩ := emitTarget_eq_ok_iff.mp accepted
  obtain rfl : home = package := Option.some.inj (isHome.symm.trans inPackage)
  rw [← units] at isUnit
  unfold unitsOf at isUnit
  dsimp only at isUnit
  split at isUnit
  · exact List.mem_pair.mp isUnit
  · exact .inl (List.mem_singleton.mp isUnit)

end AdapterGen
