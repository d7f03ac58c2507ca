import AdapterGen.Proofs.Emission.Accepted
import AdapterGen.Proofs.Emission.Dispatch
import AdapterGen.Round
import AdapterGen.Sink.Memory

/-!
# Factories of a successful round

In a round without failures every factory answers each of its classes that is a target with an
adapter that the round generated for that class.

## Implementation notes

A factory of several targets looks an adapter up by the first target of the class, the targets give
their adapters from their own packages, and the factory drops the package again where it is its own.
The reports bring the three together: each speaks of an entry for a qualified name and an origin.
-/

namespace AdapterGen

open Code Emission

namespace Round

variable {σ : Type} {config : Config} {sink : Sink σ} {state : σ} {targets : List Target}
  {registrations : List Registration}

/-! ### What a round without failures reports -/

theorem exists_mem_collect {α β : Type} (step : σ → α → σ × β) (state : σ) {items : List α}
    {a : α} (isItem : a ∈ items) :
    ∃ met, (a, (step met a).2) ∈ (collect step state items).2 := by
  induction items generalizing state with
  | nil => nomatch isItem
  | cons b rest ih =>
      rcases List.mem_cons.mp isItem with rfl | later
      · exact ⟨state, List.mem_cons_self⟩
      · obtain ⟨met, found⟩ := ih (step state b).1 later
        exact ⟨met, List.mem_cons_of_mem _ found⟩

/-- Where no result is a failure, each is what its step gives when it succeeds. -/
theorem exists_ok_of_no_failure {α β : Type} {step : σ → α → σ × Except GenerateError β}
    {items : List α} (noFailure : (collect step state items).2.filterMap (failure? ·.2) = [])
    {a : α} (isItem : a ∈ items) :
    ∃ met b, (step met a).2 = .ok b ∧ (a, .ok b) ∈ (collect step state items).2 := by
  obtain ⟨met, found⟩ := exists_mem_collect step state isItem
  have passed : failure? (step met a).2 = none :=
    List.filterMap_eq_nil_iff.mp noFailure _ found
  cases result : (step met a).2 with
  | error cause => simp [result, failure?] at passed
  | ok b => exact ⟨met, b, result, result ▸ found⟩

section Report

variable {ofTargets : List (Target × Except GenerateError (DecodePlan × List GeneratedUnit))}
  {ofRegistrations : List (Registration × Except GenerateError (List GeneratedUnit))}
  {entries : List GeneratedUnit} {entry : GeneratedUnit}

theorem mem_report_of_target {target : Target} {plan : DecodePlan}
    (found : (target, .ok (plan, entries)) ∈ ofTargets) (isEntry : entry ∈ entries) :
    entry ∈ (report ofTargets ofRegistrations).generated := by
  apply List.mem_append_left
  simp only [List.mem_flatMap, List.mem_filterMap]
  exact ⟨(target, plan, entries), ⟨_, found, rfl⟩, isEntry⟩

theorem mem_report_of_registration {registration : Registration}
    (found : (registration, .ok entries) ∈ ofRegistrations) (isEntry : entry ∈ entries) :
    entry ∈ (report ofTargets ofRegistrations).generated := by
  apply List.mem_append_right
  simp only [List.mem_flatten, List.mem_filterMap]
  exact ⟨entries, ⟨_, found, rfl⟩, isEntry⟩

end Report

theorem units_of_persistUnits {origin : String} {units : List EmittedUnit}
    {entries : List GeneratedUnit} (persisted : (persistUnits sink state origin units).2 =
      .ok entries) : entries = units.map fun u => ⟨u.file.qualifiedName, origin⟩ := by
  unfold persistUnits at persisted
  split at persisted
  · exact (Except.ok.inj persisted).symm
  · nomatch persisted

theorem emitted_of_generateTarget {target : Target} {plan : DecodePlan}
    {entries : List GeneratedUnit}
    (generated : (generateTarget config sink state target).2 = .ok (plan, entries)) :
    ∃ emitted, emitTarget config target = .ok emitted ∧
      entries = emitted.units.map fun u => ⟨u.file.qualifiedName, target.qualifiedName⟩ := by
  unfold generateTarget at generated
  cases emission : emitTarget config target with
  | error cause => simp [emission] at generated
  | ok emitted =>
      rw [emission] at generated
      dsimp only at generated
      split at generated
      · rename_i next units persisted
        obtain ⟨-, rfl⟩ := Prod.mk.inj (Except.ok.inj generated)
        exact ⟨emitted, rfl, units_of_persistUnits (congrArg Prod.snd persisted)⟩
      · nomatch generated

theorem emitted_of_generateRegistration {known : List Target} {registration : Registration}
    {entries : List GeneratedUnit}
    (generated : (generateRegistration config known sink state registration).2 = .ok entries) :
    ∃ unit, emitRegistration config known registration = .ok unit ∧
      entries = [⟨unit.file.qualifiedName, unit.file.qualifiedName⟩] := by
  unfold generateRegistration at generated
  cases emission : emitRegistration config known registration with
  | error cause => simp [emission] at generated
  | ok unit =>
      rw [emission] at generated
      exact ⟨unit, rfl, units_of_persistUnits generated⟩

/-- The units of each target stand in the report of a round without failures. -/
theorem emitted_of_isSuccess
    (success : (run config sink state targets registrations).2.isSuccess = true) {target : Target}
    (isTarget : target ∈ targets) :
    ∃ emitted, emitTarget config target = .ok emitted ∧ ∀ u ∈ emitted.units,
      ⟨u.file.qualifiedName, target.qualifiedName⟩ ∈
        (run config sink state targets registrations).2.generated := by
  have noFailure := (List.append_eq_nil_iff.mp (List.isEmpty_iff.mp success)).1
  obtain ⟨met, ⟨plan, entries⟩, result, found⟩ := exists_ok_of_no_failure noFailure isTarget
  obtain ⟨emitted, emission, rfl⟩ := emitted_of_generateTarget result
  refine ⟨emitted, emission, fun u isUnit => ?_⟩
  exact mem_report_of_target found (List.mem_map.mpr ⟨u, isUnit, rfl⟩)

/-- The factory of each registration stands in the report of a round without failures. -/
theorem registered_of_isSuccess
    (success : (run config sink state targets registrations).2.isSuccess = true)
    {registration : Registration} (isRegistration : registration ∈ registrations) :
    ∃ unit, emitRegistration config targets registration = .ok unit ∧
      ⟨unit.file.qualifiedName, unit.file.qualifiedName⟩ ∈
        (run config sink state targets registrations).2.generated := by
  have noFailure := (List.append_eq_nil_iff.mp (List.isEmpty_iff.mp success)).2
  obtain ⟨met, entries, result, found⟩ := exists_ok_of_no_failure noFailure isRegistration
  obtain ⟨unit, emission, rfl⟩ := emitted_of_generateRegistration result
  exact ⟨unit, emission, mem_report_of_registration found (List.mem_singleton_self _)⟩

/-! ### What its factories answer -/

/-- A factory with entries for classes answers by the first entry for a class and answers other
classes with null. Where a class is a target, its answer means, in the factory's package, a class
generated for it. -/
structure Dispatches (targets : List Target) (generated : List GeneratedUnit) (file : SourceFile)
    (entries : List AdapterRef) : Prop where
  unregistered : ∀ type, (∀ entry ∈ entries, entry.target ≠ type) →
    answer? file type = some none
  registered : ∀ earlier entry later, entries = earlier ++ entry :: later →
    (∀ other ∈ earlier, other.target ≠ entry.target) →
      answer? file entry.target = some (some (localReference file.package entry.adapter))
  resolved : ∀ target ∈ targets, target.qualifiedName ∈ entries.map (·.target) →
    ∃ reference, answer? file target.qualifiedName = some (some reference) ∧
      ⟨resolveIn file.package reference, target.qualifiedName⟩ ∈ generated

/-- The adapter of an entry is a class of a named package that was generated for the entry's
class, if that is a target. -/
def IsGenerated (targets : List Target) (generated : List GeneratedUnit) (entry : AdapterRef) :
    Prop :=
  ∀ target ∈ targets, entry.target = target.qualifiedName →
    ∃ home simple, home ≠ "" ∧ entry.adapter = Naming.qualify home simple ∧
      ⟨entry.adapter, target.qualifiedName⟩ ∈ generated

theorem dispatches_factoryClass {generated : List GeneratedUnit} {entries : List AdapterRef}
    (each : ∀ entry ∈ entries, IsGenerated targets generated entry) (name package : String) :
    Dispatches targets generated ⟨package, factoryClass config name package entries⟩ entries where
  unregistered type others := by
    have noEntry : entries.find? (·.target == type) = none := by simpa using others
    rw [answer?_factoryClass, noEntry]
    rfl
  registered earlier entry later split others := by
    have first : entries.find? (·.target == entry.target) = some entry := by
      have skipped : earlier.find? (·.target == entry.target) = none := by simpa using others
      simp [split, skipped]
    rw [answer?_factoryClass, first]
    rfl
  resolved target isTarget isRegistered := by
    have isSome : (entries.find? (·.target == target.qualifiedName)).isSome = true := by
      simpa using isRegistered
    obtain ⟨entry, first⟩ := Option.isSome_iff_exists.mp isSome
    have isFor : entry.target = target.qualifiedName := by simpa using List.find?_some first
    obtain ⟨home, simple, named, isAdapter, found⟩ :=
      each entry (List.mem_of_find?_eq_some first) target isTarget isFor
    refine ⟨localReference package entry.adapter, ?_, ?_⟩
    · rw [answer?_factoryClass, first]
      rfl
    · rw [isAdapter] at found ⊢
      rwa [resolveIn_localReference named]

/-- The adapter of a target stands in the report, under the name that its package and its simple
name give. -/
theorem adapter_generated
    (success : (run config sink state targets registrations).2.isSuccess = true) {target : Target}
    (isTarget : target ∈ targets) :
    ∃ home, target.package = some home ∧
      ⟨Naming.qualify home (adapterName config target.simpleName), target.qualifiedName⟩ ∈
        (run config sink state targets registrations).2.generated := by
  obtain ⟨emitted, emission, entries⟩ := emitted_of_isSuccess success isTarget
  obtain ⟨home, fields, -, known, -, -, units⟩ := emitTarget_eq_ok_iff.mp emission
  obtain ⟨others, first⟩ := unitsOf_eq_cons config target home emitted.plan
  have isUnit : ⟨.adapter, home, adapterClass config target home emitted.plan⟩ ∈ emitted.units := by
    rw [← units, first]
    exact List.mem_cons_self
  exact ⟨home, known, entries _ isUnit⟩

/-- The adapter that a registered class gets is generated, if the class is a target. -/
theorem isGenerated_registeredAdapter
    (success : (run config sink state targets registrations).2.isSuccess = true)
    (named : ∀ target ∈ targets, target.package ≠ some "") (type : String) :
    IsGenerated targets (run config sink state targets registrations).2.generated
      ⟨type, registeredAdapter config targets type⟩ := by
  intro target isTarget isFor
  have isSome : (targets.find? (·.qualifiedName == type)).isSome = true :=
    List.find?_isSome.mpr ⟨target, isTarget, by simpa using isFor.symm⟩
  -- The target of the class that is looked up need not be the given one.
  obtain ⟨first, found⟩ := Option.isSome_iff_exists.mp isSome
  have isFirst := List.mem_of_find?_eq_some found
  have sameName : first.qualifiedName = type := by simpa using List.find?_some found
  obtain ⟨home, known, isEntry⟩ := adapter_generated success isFirst
  have isAdapter : registeredAdapter config targets type =
      Naming.qualify home (adapterName config first.simpleName) := by
    simp [registeredAdapter, found, known, Target.simpleName, sameName]
  refine ⟨home, adapterName config first.simpleName, ?_, isAdapter, ?_⟩
  · rintro rfl
    exact named first isFirst known
  · rwa [isAdapter, ← show type = target.qualifiedName from isFor, ← sameName]

/-- In a round without failures, for targets of named packages, the factory of every registration
answers by the first entry for a class, and answers with a generated adapter where the class is a
target. So does the factory of every target that asks for one. -/
theorem factories_dispatch_to_generated (config : Config) (sink : Sink σ) (state : σ)
    (targets : List Target) (registrations : List Registration)
    (success : (run config sink state targets registrations).2.isSuccess = true)
    (named : ∀ target ∈ targets, target.package ≠ some "") :
    let generated := (run config sink state targets registrations).2.generated
    (∀ registration ∈ registrations, ∃ factory,
      emitRegistration config targets registration = .ok factory ∧
        ⟨factory.file.qualifiedName, factory.file.qualifiedName⟩ ∈ generated ∧
        Dispatches targets generated factory.file
          (registration.types.map fun type => ⟨type, registeredAdapter config targets type⟩)) ∧
    ∀ target ∈ targets, target.flags.generateFactory = true → ∃ emitted adapter factory,
      emitTarget config target = .ok emitted ∧ emitted.units = [adapter, factory] ∧
        factory.kind = .factory ∧
        ⟨factory.file.qualifiedName, target.qualifiedName⟩ ∈ generated ∧
        Dispatches targets generated factory.file
          [⟨target.qualifiedName, adapter.file.qualifiedName⟩] := by
  intro generated
  constructor
  · intro registration isRegistration
    obtain ⟨factory, emission, isEntry⟩ := registered_of_isSuccess success isRegistration
    refine ⟨factory, emission, isEntry, ?_⟩
    unfold emitRegistration at emission
    split at emission
    · nomatch emission
    · obtain rfl := Except.ok.inj emission
      apply dispatches_factoryClass
      simp only [List.forall_mem_map]
      exact fun type _ => isGenerated_registeredAdapter success named type
  · intro target isTarget asked
    obtain ⟨emitted, emission, entries⟩ := emitted_of_isSuccess success isTarget
    obtain ⟨home, fields, -, known, -, -, units⟩ := emitTarget_eq_ok_iff.mp emission
    rw [unitsOf, if_pos asked] at units
    refine ⟨emitted, _, _, emission, units.symm, rfl, entries _ (by simp [← units]), ?_⟩
    apply dispatches_factoryClass
    rintro entry isOnly other - isFor
    obtain rfl := List.mem_singleton.mp isOnly
    have isHome : home ≠ "" := by
      rintro rfl
      exact named target isTarget known
    have isEntry := entries _ (by rw [← units]; exact List.mem_cons_self)
    exact ⟨home, _, isHome, rfl, isFor ▸ isEntry⟩

/-- A factory in the package of one of its classes. The package of another is no prefix of its name,
the third is registered without a target, and a class between them occurs twice. -/
theorem factory_dispatches_three_classes :
    let field : Parameter := { name := "x", type := .string }
    let nested : Target :=
      { qualifiedName := "a.Outer.P", package := some "a", constructors := [[field]] }
    let moved : Target := { nested with qualifiedName := "b.Q", package := some "c.d" }
    let again : Target := { moved with package := some "e", flags := { generateFactory := true } }
    let registration : Registration :=
      { declaredIn := some "a", types := ["a.Outer.P", "b.Q", "b.Q", "z.Z"] }
    let result := (run {} (MemoryStore.sink []) {} [nested, moved, again] [registration]).2
    ∃ factory, emitRegistration {} [nested, moved, again] registration = .ok factory ∧
      answer? factory.file "a.Outer.P" = some (some "PAdapter") ∧
      answer? factory.file "b.Q" = some (some "c.d.QAdapter") ∧
      answer? factory.file "z.Z" = some (some "z.ZAdapter") ∧
      answer? factory.file "a.P" = some none ∧
      ⟨resolveIn factory.file.package "PAdapter", "a.Outer.P"⟩ ∈ result.generated ∧
      ⟨resolveIn factory.file.package "c.d.QAdapter", "b.Q"⟩ ∈ result.generated := by
  intro field nested moved again registration result
  obtain ⟨ofRegistrations, -⟩ := factories_dispatch_to_generated {} (MemoryStore.sink []) {}
    [nested, moved, again] [registration] (by decide) (by decide)
  obtain ⟨factory, emission, -, dispatches⟩ := ofRegistrations registration List.mem_cons_self
  obtain rfl := Except.ok.inj emission
  have adapterP : localReference "a" (registeredAdapter {} [nested, moved, again] "a.Outer.P") =
      "PAdapter" := by decide
  have adapterQ : localReference "a" (registeredAdapter {} [nested, moved, again] "b.Q") =
      "c.d.QAdapter" := by decide
  have adapterZ : localReference "a" (registeredAdapter {} [nested, moved, again] "z.Z") =
      "z.ZAdapter" := by decide
  have ofP := dispatches.registered [] _ _ rfl (by simp)
  have ofQ := dispatches.registered [_] _ _ rfl (by decide)
  have ofZ := dispatches.registered [_, _, _] _ _ rfl (by decide)
  dsimp only at ofP ofQ ofZ
  rw [adapterP] at ofP
  rw [adapterQ] at ofQ
  rw [adapterZ] at ofZ
  obtain ⟨p, answersP, isP⟩ := dispatches.resolved nested (by simp) (by decide)
  obtain ⟨q, answersQ, isQ⟩ := dispatches.resolved moved (by simp) (by decide)
  rw [show nested.qualifiedName = "a.Outer.P" from rfl, ofP] at answersP
  rw [show moved.qualifiedName = "b.Q" from rfl, ofQ] at answersQ
  obtain rfl := Option.some.inj (Option.some.inj answersP)
  obtain rfl := Option.some.inj (Option.some.inj answersQ)
  exact ⟨_, rfl, ofP, ofQ, ofZ, dispatches.unregistered "a.P" (by decide), isP, isQ⟩

end Round

end AdapterGen
