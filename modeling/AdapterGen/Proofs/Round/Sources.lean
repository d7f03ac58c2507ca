import AdapterGen.Proofs.Emission.UnitNames
import AdapterGen.Proofs.Round.Contributions
import AdapterGen.Proofs.Sink.Rollback
import Mathlib.Data.List.Nodup

/-!
# The sources that a round leaves

A round into a directory none of whose writes fails writes the file of every entry that it reports,
in the order of the entries. An entry keeps its source unless a later one goes to its place, and
none does when the units' names are apart.

## Implementation notes

Nothing looks for units of one name, neither among the targets of a package nor between targets
and registrations, so `NamesApart` is a condition on what a round is given.
-/

namespace AdapterGen

open Code Emission

namespace Round

/-! ### What a round emits -/

/-- The files emitted for a target, each with its origin. -/
def emittedFor (config : Config) (target : Target) : List (String × SourceFile) :=
  match emitTarget config target with
  | .error _ => []
  | .ok emitted => emitted.units.map fun u => (target.qualifiedName, u.file)

/-- The file emitted for a registration, with its origin. -/
def registeredFor (config : Config) (known : List Target) (registration : Registration) :
    List (String × SourceFile) :=
  match emitRegistration config known registration with
  | .error _ => []
  | .ok unit => [(unit.file.qualifiedName, unit.file)]

/-- The files of a round, each with its origin: those of the targets, then those of the
registrations. -/
def emissions (config : Config) (targets : List Target) (registrations : List Registration) :
    List (String × SourceFile) :=
  targets.flatMap (emittedFor config) ++ registrations.flatMap (registeredFor config targets)

/-- The entry of a report about a file. -/
def entryOf (emission : String × SourceFile) : GeneratedUnit :=
  ⟨emission.2.qualifiedName, emission.1⟩

/-! ### Names -/

theorem mem_emittedFor {config : Config} {target : Target} {emission : String × SourceFile}
    (found : emission ∈ emittedFor config target) :
    ∃ package, target.package = some package ∧ ∃ suffix ∈ unitSuffixes config target,
      unitName target package suffix = emission.2.qualifiedName := by
  unfold emittedFor at found
  split at found
  · simp at found
  · rename_i emitted accepted
    obtain ⟨package, fields, -, known, -, -, units⟩ := emitTarget_eq_ok_iff.mp accepted
    obtain ⟨unit, isUnit, rfl⟩ := List.mem_map.mp found
    have isName : unit.file.qualifiedName ∈
        (unitsOf config target package emitted.plan).map (·.file.qualifiedName) :=
      List.mem_map.mpr ⟨unit, units ▸ isUnit, rfl⟩
    rw [map_qualifiedName_unitsOf] at isName
    exact ⟨package, known, List.mem_map.mp isName⟩

theorem nodup_emittedFor {config : Config} {target : Target}
    (apart : target.flags.generateFactory = true →
      SuffixesApart config.adapterSuffix config.factorySuffix) :
    ((emittedFor config target).map (·.2.qualifiedName)).Nodup := by
  unfold emittedFor
  split
  · simp
  · rename_i emitted accepted
    obtain ⟨package, fields, -, known, -, -, units⟩ := emitTarget_eq_ok_iff.mp accepted
    rw [List.map_map]
    change (emitted.units.map (·.file.qualifiedName)).Nodup
    rw [← units, map_qualifiedName_unitsOf]
    exact nodup_unitNames apart package

theorem map_qualifiedName_registeredFor (config : Config) (known : List Target)
    (registration : Registration) :
    (registeredFor config known registration).map (·.2.qualifiedName) =
      registration.qualifiedName?.toList := by
  rw [← emitRegistration_qualifiedName config known registration]
  unfold registeredFor
  cases emitRegistration config known registration <;> rfl

/-- Nothing that a round is given asks for two units of one name. -/
structure NamesApart (config : Config) (targets : List Target)
    (registrations : List Registration) : Prop where
  amongTargets : targets.Pairwise fun s t =>
    ¬(s.package = t.package ∧ s.simpleName = t.simpleName)
  suffixes : (∃ target ∈ targets, target.flags.generateFactory = true) →
    SuffixesApart config.adapterSuffix config.factorySuffix
  amongRegistrations : (registrations.filterMap (·.qualifiedName?)).Nodup
  between : ∀ target ∈ targets, ∀ package, target.package = some package →
    ∀ suffix ∈ unitSuffixes config target, ∀ registration ∈ registrations,
      registration.qualifiedName? ≠ some (unitName target package suffix)

namespace NamesApart

variable {config : Config} {targets : List Target} {registrations : List Registration}

/-- No two targets have a unit of one name. -/
theorem disjoint_targets (apart : NamesApart config targets registrations) {s t : Target}
    (isS : s ∈ targets) (isT : t ∈ targets)
    (differ : ¬(s.package = t.package ∧ s.simpleName = t.simpleName)) :
    List.Disjoint ((emittedFor config s).map (·.2.qualifiedName))
      ((emittedFor config t).map (·.2.qualifiedName)) := by
  intro name inS inT
  obtain ⟨emission, ofS, rfl⟩ := List.mem_map.mp inS
  obtain ⟨other, ofT, same⟩ := List.mem_map.mp inT
  obtain ⟨p, packageS, a, isA, nameS⟩ := mem_emittedFor ofS
  obtain ⟨q, packageT, b, isB, nameT⟩ := mem_emittedFor ofT
  have suffixes : s.flags.generateFactory = true ∨ t.flags.generateFactory = true →
      SuffixesApart config.adapterSuffix config.factorySuffix := by
    rintro (asked | asked)
    · exact apart.suffixes ⟨s, isS, asked⟩
    · exact apart.suffixes ⟨t, isT, asked⟩
  rw [packageS, packageT, Option.some.injEq] at differ
  exact unitName_ne_of_apart isA isB suffixes differ (nameS.trans (same.symm.trans nameT.symm))

/-- No registration has the name of a target's unit. -/
theorem disjoint_registrations (apart : NamesApart config targets registrations) :
    List.Disjoint ((targets.flatMap (emittedFor config)).map (·.2.qualifiedName))
      (registrations.filterMap (·.qualifiedName?)) := by
  intro name ofTarget ofRegistration
  rw [List.map_flatMap] at ofTarget
  obtain ⟨target, isTarget, isUnit⟩ := List.mem_flatMap.mp ofTarget
  obtain ⟨emission, isEmitted, rfl⟩ := List.mem_map.mp isUnit
  obtain ⟨registration, isRegistration, named⟩ := List.mem_filterMap.mp ofRegistration
  obtain ⟨package, known, suffix, isSuffix, isName⟩ := mem_emittedFor isEmitted
  rw [← isName] at named
  exact apart.between target isTarget package known suffix isSuffix registration
    isRegistration named

/-- Units have names of their own when nothing asks for two of one name. -/
theorem nodup (apart : NamesApart config targets registrations) :
    ((emissions config targets registrations).map (·.2.qualifiedName)).Nodup := by
  have ofRegistrations : (registrations.flatMap (registeredFor config targets)).map
      (·.2.qualifiedName) = registrations.filterMap (·.qualifiedName?) := by
    rw [List.map_flatMap, List.filterMap_eq_flatMap_toList]
    simp only [map_qualifiedName_registeredFor]
  unfold emissions
  rw [List.map_append, ofRegistrations]
  apply List.Nodup.append _ apart.amongRegistrations apart.disjoint_registrations
  rw [List.map_flatMap, List.nodup_flatMap]
  constructor
  · intro target isTarget
    exact nodup_emittedFor fun asked => apart.suffixes ⟨target, isTarget, asked⟩
  · apply apart.amongTargets.imp_of_mem
    intro s t isS isT differ
    exact apart.disjoint_targets isS isT differ

end NamesApart

/-! ### Files -/

section Run

variable {σ : Type} {config : Config} {sink : Sink σ}

theorem firstRefusal?_none (files : List SourceFile) :
    Sink.firstRefusal? (fun _ => none) files = none := by
  simp [Sink.firstRefusal?]

theorem persistAll_state {state : σ} {files : List SourceFile}
    (steady : ∀ call ∈ sink.calls state files, sink.AnswersBy (fun _ => none) call) :
    files.foldlM sink.persist state = .ok (sink.persistAll state files).1 := by
  have passed : (sink.persistAll state files).2 = none :=
    (Sink.persistAfter_failure steady []).trans (firstRefusal?_none files)
  exact Sink.persistAll_passed (Prod.ext rfl passed)

theorem persistUnits_state {state : σ} {units : List EmittedUnit}
    (steady : ∀ call ∈ sink.calls state (units.map (·.file)),
      sink.AnswersBy (fun _ => none) call) (origin : String) :
    (units.map (·.file)).foldlM sink.persist state =
      .ok (persistUnits sink state origin units).1 := by
  rw [persistAll_state steady]
  unfold persistUnits
  split <;> rename_i found <;> rw [found]

theorem generateTarget_state (state : σ) (target : Target)
    (steady : ∀ call ∈ targetCalls config sink state target,
      sink.AnswersBy (fun _ => none) call) :
    ((emittedFor config target).map (·.2)).foldlM sink.persist state =
      .ok (generateTarget config sink state target).1 := by
  unfold targetCalls at steady
  unfold emittedFor generateTarget
  cases emission : emitTarget config target with
  | error cause => rfl
  | ok emitted =>
      rw [emission] at steady
      dsimp only
      rw [List.map_map]
      refine (persistUnits_state steady target.qualifiedName).trans ?_
      split <;> rename_i found <;> rw [found]

theorem generateRegistration_state (known : List Target) (state : σ)
    (registration : Registration)
    (steady : ∀ call ∈ registrationCalls config sink known state registration,
      sink.AnswersBy (fun _ => none) call) :
    ((registeredFor config known registration).map (·.2)).foldlM sink.persist state =
      .ok (generateRegistration config known sink state registration).1 := by
  unfold registrationCalls at steady
  unfold registeredFor generateRegistration
  cases emission : emitRegistration config known registration with
  | error cause => rfl
  | ok unit =>
      rw [emission] at steady
      have run : ([unit].map (·.file)).foldlM sink.persist state = _ :=
        persistUnits_state steady unit.file.qualifiedName
      exact run

/-- Steps that persist the files of their elements persist those of a list. -/
theorem collect_state {α β : Type} {step : σ → α → σ × β}
    {calls : σ → α → List (σ × SourceFile)} {files : α → List SourceFile}
    {good : σ × SourceFile → Prop}
    (own : ∀ state a, (∀ call ∈ calls state a, good call) →
      (files a).foldlM sink.persist state = .ok (step state a).1)
    {state : σ} {items : List α}
    (steady : ∀ call ∈ collectCalls step calls state items, good call) :
    (items.flatMap files).foldlM sink.persist state = .ok (collect step state items).1 := by
  induction items generalizing state with
  | nil => rfl
  | cons a rest ih =>
      have first := own state a fun call found => steady call (by simp [collectCalls, found])
      have steadyRest : ∀ call ∈ collectCalls step calls (step state a).1 rest, good call :=
        fun call found => steady call (by simp [collectCalls, found])
      have others := ih steadyRest
      rw [List.flatMap_cons, List.foldlM_append, first]
      exact others

/-- A round whose calls all succeed persists its emissions in order. -/
theorem run_state {state : σ} {targets : List Target} {registrations : List Registration}
    (steady : ∀ call ∈ calls config sink state targets registrations,
      sink.AnswersBy (fun _ => none) call) :
    ((emissions config targets registrations).map (·.2)).foldlM sink.persist state =
      .ok (run config sink state targets registrations).1 := by
  have ofTargets :
      (targets.flatMap fun t => (emittedFor config t).map (·.2)).foldlM sink.persist state =
        .ok (collect (generateTarget config sink) state targets).1 := by
    refine collect_state generateTarget_state fun call found => ?_
    exact steady call (List.mem_append_left _ found)
  have ofRegistrations (middle : σ)
      (reached : middle = (collect (generateTarget config sink) state targets).1) :
      (registrations.flatMap fun r => (registeredFor config targets r).map (·.2)).foldlM
          sink.persist middle =
        .ok (collect (generateRegistration config targets sink) middle registrations).1 := by
    subst reached
    refine collect_state (generateRegistration_state targets) fun call found => ?_
    exact steady call (List.mem_append_right _ found)
  unfold emissions
  rw [List.map_append, List.map_flatMap, List.map_flatMap, List.foldlM_append, ofTargets]
  exact ofRegistrations _ rfl

/-- A round whose calls all succeed reports its emissions in order. -/
theorem run_generated {state : σ} {targets : List Target} {registrations : List Registration}
    (steady : ∀ call ∈ calls config sink state targets registrations,
      sink.AnswersBy (fun _ => none) call) :
    (run config sink state targets registrations).2.generated =
      (emissions config targets registrations).map entryOf := by
  have ofTarget (target : Target) : entriesOf (targetYield config (fun _ => none) target) =
      (emittedFor config target).map entryOf := by
    unfold targetYield emittedFor
    cases emitTarget config target with
    | error cause => rfl
    | ok emitted => simp [firstRefusal?_none, entriesOf, entryOf]
  have ofRegistration (registration : Registration) :
      (registrationYield config (fun _ => none) targets registration).toOption.toList =
        (registeredFor config targets registration).map entryOf := by
    unfold registrationYield registeredFor
    cases emitRegistration config targets registration with
    | error cause => rfl
    | ok unit => simp [firstRefusal?_none, Except.toOption, entryOf]
  unfold emissions
  rw [(run_isSum steady).generated, List.map_append, List.map_flatMap, List.map_flatMap,
    List.filterMap_eq_flatMap_toList]
  simp only [ofTarget, ofRegistration]

end Run

/-! ### Places -/

/-- A file whose class name and package have no slash, and whose package has no empty segment. -/
structure IsPlain (file : SourceFile) : Prop where
  package : FilePath.IsPackage file.package
  packageFree : '/' ∉ file.package.toList
  nameFree : '/' ∉ file.decl.name.toList

theorem isPlain_iff (file : SourceFile) : IsPlain file ↔
    FilePath.IsPackage file.package ∧ '/' ∉ file.package.toList ∧ '/' ∉ file.decl.name.toList :=
  ⟨fun plain => ⟨plain.package, plain.packageFree, plain.nameFree⟩,
    fun ⟨package, packageFree, nameFree⟩ => ⟨package, packageFree, nameFree⟩⟩

instance (file : SourceFile) : Decidable (IsPlain file) := decidable_of_iff' _ (isPlain_iff file)

/-- Plain files of one place are of one name. -/
theorem IsPlain.qualifiedName_eq {file other : SourceFile} (plain : IsPlain file)
    (plainOther : IsPlain other) {root : String}
    (same : DirectoryStore.placeOf root file = DirectoryStore.placeOf root other) :
    file.qualifiedName = other.qualifiedName := by
  unfold DirectoryStore.placeOf DirectoryStore.pathOf SourceFile.relativePath at same
  rw [FilePath.resolve_ofClass plain.packageFree plain.nameFree,
    FilePath.resolve_ofClass plainOther.packageFree plainOther.nameFree] at same
  obtain ⟨packages, name⟩ := (FilePath.classSteps_eq_iff plain.package plainOther.package).mp
    (List.append_cancel_left same)
  unfold SourceFile.qualifiedName
  rw [packages, name]

/-- After a round into a directory none of whose writes fails, an entry of the report has its own
source at its place unless a later one goes there. So every entry has it when nothing that the
round is given asks for two units of one name, and the entries' names are then distinct. -/
theorem run_keeps_own_sources (config : Config) (root indent : String) (store : DirectoryStore)
    (targets : List Target) (registrations : List Registration)
    (writes : ∀ call ∈
      calls config (DirectoryStore.sink root indent) store targets registrations,
      ∃ tree, DirectoryStore.writeFile call.1.tree (DirectoryStore.pathOf root call.2)
        (call.2.render indent) = .ok tree) :
    let result := run config (DirectoryStore.sink root indent) store targets registrations
    let units := emissions config targets registrations
    result.2.generated = units.map entryOf ∧
      (∀ earlier unit later, units = earlier ++ unit :: later →
        (∀ other ∈ later,
          DirectoryStore.placeOf root other.2 ≠ DirectoryStore.placeOf root unit.2) →
        result.1.tree.content? (DirectoryStore.placeOf root unit.2) =
          some (unit.2.render indent)) ∧
      (NamesApart config targets registrations →
        (result.2.generated.map (·.name)).Nodup ∧
          ((∀ unit ∈ units, IsPlain unit.2) → ∀ unit ∈ units,
            result.1.tree.content? (DirectoryStore.placeOf root unit.2) =
              some (unit.2.render indent))) := by
  intro result units
  have steady : ∀ call ∈
      calls config (DirectoryStore.sink root indent) store targets registrations,
      (DirectoryStore.sink root indent).AnswersBy (fun _ => none) call :=
    fun call found => (DirectoryStore.answersBy_iff root indent call).mpr (writes call found)
  have generated : result.2.generated = units.map entryOf := run_generated steady
  obtain ⟨overlays, -⟩ := DirectoryStore.foldlM_persist (run_state steady)
  have kept : ∀ earlier unit later, units = earlier ++ unit :: later →
      (∀ other ∈ later,
        DirectoryStore.placeOf root other.2 ≠ DirectoryStore.placeOf root unit.2) →
      result.1.tree.content? (DirectoryStore.placeOf root unit.2) =
        some (unit.2.render indent) := by
    intro earlier unit later shape apart
    apply overlays.last (earlier.map (·.2)) unit.2 (later.map (·.2))
    · rw [← List.map_cons, ← List.map_append, ← shape]
    · intro file isLater
      obtain ⟨other, found, rfl⟩ := List.mem_map.mp isLater
      exact apart other found
  refine ⟨generated, kept, ?_⟩
  intro apart
  have distinct : (units.map (·.2.qualifiedName)).Nodup := apart.nodup
  constructor
  · rw [generated, List.map_map]
    exact distinct
  · intro plain unit isUnit
    obtain ⟨earlier, later, shape⟩ := List.append_of_mem isUnit
    apply kept earlier unit later shape
    intro other isLater same
    rw [shape, List.map_append, List.map_cons] at distinct
    obtain ⟨-, distinctRest, -⟩ := List.nodup_append.mp distinct
    have isOther : other ∈ units := by simp [shape, isLater]
    have sameName := (plain other isOther).qualifiedName_eq (plain unit isUnit) same
    exact (List.nodup_cons.mp distinctRest).1 (List.mem_map.mpr ⟨other, isLater, sameName⟩)

/-- Classes of one simple name in two packages, one with a factory of its own, and a registration
of both. -/
theorem run_keeps_sources_of_two_packages :
    let field : Parameter := { name := "x", type := .primitive .int }
    let first : Target :=
      { qualifiedName := "a.A", package := some "a", constructors := [[field]],
        flags := { generateFactory := true } }
    let second : Target :=
      { qualifiedName := "b.A", package := some "b", constructors := [[field]] }
    let both : Registration := { declaredIn := some "b", types := ["a.A", "b.A"] }
    ((run {} (DirectoryStore.sink "out" "") {} [first, second] [both]).2.generated.map
        (·.name)).Nodup ∧
      ∀ unit ∈ emissions {} [first, second] [both],
        (run {} (DirectoryStore.sink "out" "") {} [first, second] [both]).1.tree.content?
            (DirectoryStore.placeOf "out" unit.2) =
          some (unit.2.render "") := by
  intro field first second both
  have accepted : ∀ call ∈ calls {} (DirectoryStore.sink "out" "") {} [first, second] [both],
      (DirectoryStore.sink "out" "").AnswersBy (fun _ => none) call := by decide +kernel
  obtain ⟨-, -, keeps⟩ :=
    run_keeps_own_sources {} "out" "" {} [first, second] [both] fun call found =>
      (DirectoryStore.answersBy_iff "out" "" call).mp (accepted call found)
  have apart : NamesApart {} [first, second] [both] := by
    refine ⟨by decide, fun _ => ?_, by decide, ?_⟩
    · unfold SuffixesApart
      decide
    · intro target isTarget package known suffix isSuffix registration isRegistration
      obtain rfl := List.mem_singleton.mp isRegistration
      rcases List.mem_pair.mp isTarget with rfl | rfl
      · obtain rfl : "a" = package := Option.some.inj known
        rcases List.mem_pair.mp isSuffix with rfl | rfl <;> decide
      · obtain rfl : "b" = package := Option.some.inj known
        obtain rfl := List.mem_singleton.mp isSuffix
        decide
  have plain : ∀ unit ∈ emissions {} [first, second] [both], IsPlain unit.2 := by decide +kernel
  have own := keeps apart
  exact own.imp_right fun all => all plain

/-- Two nested classes of one package have adapters of one name, and the second is written over
the first. -/
theorem run_overwrites_nested :
    let field : Parameter := { name := "x", type := .primitive .int }
    let first : Target :=
      { qualifiedName := "a.Outer.X", package := some "a", constructors := [[field]] }
    let second : Target := { first with qualifiedName := "a.Other.X" }
    let result := run {} (DirectoryStore.sink "out" "") {} [first, second] []
    first.qualifiedName ≠ second.qualifiedName ∧
      (∀ call ∈ calls {} (DirectoryStore.sink "out" "") {} [first, second] [],
        ∃ tree, DirectoryStore.writeFile call.1.tree (DirectoryStore.pathOf "out" call.2)
          (call.2.render "") = .ok tree) ∧
      result.2.generated = [⟨"a.XAdapter", "a.Outer.X"⟩, ⟨"a.XAdapter", "a.Other.X"⟩] ∧
      ∃ unit ∈ emissions {} [first, second] [],
        result.1.tree.content? (DirectoryStore.placeOf "out" unit.2) ≠
          some (unit.2.render "") := by
  intro field first second result
  have accepted : ∀ call ∈ calls {} (DirectoryStore.sink "out" "") {} [first, second] [],
      (DirectoryStore.sink "out" "").AnswersBy (fun _ => none) call := by decide +kernel
  refine ⟨by decide, ?_, by decide +kernel, by decide +kernel⟩
  intro call found
  exact (DirectoryStore.answersBy_iff "out" "" call).mp (accepted call found)

end Round

end AdapterGen
