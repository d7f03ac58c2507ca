import AdapterGen.Proofs.Emission.Accepted
import AdapterGen.Round
import AdapterGen.Sink.Directory
import AdapterGen.Sink.Memory

/-!
# What each target and each registration contributes to a round

When the sink's answer to a file depends on the file alone, a round is the sum
of what its targets and its registrations yield on their own, in order.

## Implementation notes

A sink need not answer alike in all of its states. Only the calls that the
round makes matter, so the hypothesis speaks of these calls.

-/

namespace AdapterGen

open Code Emission

variable {σ : Type}

namespace Sink

/-- The calls of `persist` that persisting files makes: the state that each meets, and the file. -/
def calls (sink : Sink σ) : σ → List SourceFile → List (σ × SourceFile)
  | _, [] => []
  | state, file :: rest =>
      (state, file) ::
        match sink.persist state file with
        | .ok next => sink.calls next rest
        | .error _ => []

/-- The answer to a call is given by its file: what it is refused for, or nothing. -/
def AnswersBy (sink : Sink σ) (refusal : SourceFile → Option WriteError)
    (call : σ × SourceFile) : Prop :=
  Round.failure? (sink.persist call.1 call.2) =
    (refusal call.2).map (.persistence call.2.qualifiedName)

instance (sink : Sink σ) (refusal : SourceFile → Option WriteError) (call : σ × SourceFile) :
    Decidable (sink.AnswersBy refusal call) :=
  inferInstanceAs (Decidable (_ = _))

/-- The failure of the first refused file. -/
def firstRefusal? (refusal : SourceFile → Option WriteError) (files : List SourceFile) :
    Option GenerateError :=
  files.findSome? fun file => (refusal file).map (.persistence file.qualifiedName)

theorem persistAfter_failure {sink : Sink σ} {refusal : SourceFile → Option WriteError}
    {state : σ} {files : List SourceFile}
    (steady : ∀ call ∈ sink.calls state files, sink.AnswersBy refusal call)
    (earlier : List SourceFile) :
    (sink.persistAfter earlier state files).2 = firstRefusal? refusal files := by
  induction files generalizing state earlier with
  | nil => rfl
  | cons file rest ih =>
      have answer := steady (state, file) (by simp [calls])
      unfold AnswersBy at answer
      dsimp only at answer
      unfold persistAfter firstRefusal?
      rw [List.findSome?_cons, ← answer]
      cases persisted : sink.persist state file with
      | error cause => rfl
      | ok next =>
          have steadyRest : ∀ call ∈ sink.calls next rest, sink.AnswersBy refusal call := by
            intro call found
            exact steady call (by simp [calls, persisted, found])
          exact ih steadyRest (file :: earlier)

end Sink

/-- The memory sink answers by the name of the class. -/
theorem MemoryStore.answersBy (refused : List String) (call : MemoryStore × SourceFile) :
    (MemoryStore.sink refused).AnswersBy
      (fun file => if refused.contains file.decl.name then some .refused else none) call := by
  unfold Sink.AnswersBy MemoryStore.sink
  dsimp only
  split <;> rfl

/-- The directory sink accepts a file when its write does not fail. -/
theorem DirectoryStore.answersBy_iff (root indent : String)
    (call : DirectoryStore × SourceFile) :
    (DirectoryStore.sink root indent).AnswersBy (fun _ => none) call ↔
      ∃ tree, DirectoryStore.writeFile call.1.tree (pathOf root call.2) (call.2.render indent) =
        .ok tree := by
  unfold Sink.AnswersBy DirectoryStore.sink
  dsimp only
  cases DirectoryStore.writeFile call.1.tree (pathOf root call.2) (call.2.render indent) with
  | ok tree => simp [Round.failure?]
  | error cause => simp [Round.failure?]

namespace Round

variable (config : Config) (refusal : SourceFile → Option WriteError)

/-- What a target yields on its own: its plan and its entries, or the error that stops it. -/
def targetYield (target : Target) : Except GenerateError (DecodePlan × List GeneratedUnit) :=
  match emitTarget config target with
  | .error cause => .error cause
  | .ok emitted =>
      match Sink.firstRefusal? refusal (emitted.units.map (·.file)) with
      | some cause => .error cause
      | none =>
          .ok (emitted.plan,
            emitted.units.map fun u => ⟨u.file.qualifiedName, target.qualifiedName⟩)

/-- What a registration yields on its own, for the targets that are known: its entry, or the error
that stops it. -/
def registrationYield (known : List Target) (registration : Registration) :
    Except GenerateError GeneratedUnit :=
  match emitRegistration config known registration with
  | .error cause => .error cause
  | .ok unit =>
      match Sink.firstRefusal? refusal [unit.file] with
      | some cause => .error cause
      | none => .ok ⟨unit.file.qualifiedName, unit.file.qualifiedName⟩

section Calls

variable (sink : Sink σ)

/-- The calls of `persist` that a target's generation makes. -/
def targetCalls (state : σ) (target : Target) : List (σ × SourceFile) :=
  match emitTarget config target with
  | .error _ => []
  | .ok emitted => sink.calls state (emitted.units.map (·.file))

/-- The calls of `persist` that a registration's generation makes. -/
def registrationCalls (known : List Target) (state : σ) (registration : Registration) :
    List (σ × SourceFile) :=
  match emitRegistration config known registration with
  | .error _ => []
  | .ok unit => sink.calls state [unit.file]

/-- The calls made along a list, each element meeting the state that those before it left. -/
def collectCalls {α β : Type} (step : σ → α → σ × β) (calls : σ → α → List (σ × SourceFile)) :
    σ → List α → List (σ × SourceFile)
  | _, [] => []
  | state, a :: rest => calls state a ++ collectCalls step calls (step state a).1 rest

/-- The calls of `persist` that a round makes. -/
def calls (state : σ) (targets : List Target) (registrations : List Registration) :
    List (σ × SourceFile) :=
  let middle := (collect (generateTarget config sink) state targets).1
  collectCalls (generateTarget config sink) (targetCalls config sink) state targets ++
    collectCalls (generateRegistration config targets sink)
      (registrationCalls config sink targets) middle registrations

end Calls

/-! ### One step, and a run over a list -/

variable {config refusal} {sink : Sink σ}

theorem persistUnits_result {state : σ} {units : List EmittedUnit}
    (steady : ∀ call ∈ sink.calls state (units.map (·.file)), sink.AnswersBy refusal call)
    (origin : String) :
    (persistUnits sink state origin units).2 =
      match Sink.firstRefusal? refusal (units.map (·.file)) with
      | some cause => .error cause
      | none => .ok (units.map fun u => ⟨u.file.qualifiedName, origin⟩) := by
  rw [← Sink.persistAfter_failure steady []]
  unfold persistUnits Sink.persistAll
  split <;> rename_i found <;> rw [found]

theorem generateTarget_result (state : σ) (target : Target)
    (steady : ∀ call ∈ targetCalls config sink state target, sink.AnswersBy refusal call) :
    (generateTarget config sink state target).2 = targetYield config refusal target := by
  unfold targetCalls at steady
  unfold generateTarget targetYield
  cases emission : emitTarget config target with
  | error cause => rfl
  | ok emitted =>
      rw [emission] at steady
      have result := persistUnits_result steady target.qualifiedName
      dsimp only
      cases refused : Sink.firstRefusal? refusal (emitted.units.map (·.file)) with
      | some cause =>
          rw [refused] at result
          split <;> rename_i persisted <;> rw [persisted] at result
          · contradiction
          · obtain rfl := Except.error.inj result
            rfl
      | none =>
          rw [refused] at result
          split <;> rename_i persisted <;> rw [persisted] at result
          · obtain rfl := Except.ok.inj result
            rfl
          · contradiction

theorem generateRegistration_result (known : List Target) (state : σ)
    (registration : Registration)
    (steady : ∀ call ∈ registrationCalls config sink known state registration,
      sink.AnswersBy refusal call) :
    (generateRegistration config known sink state registration).2 =
      (registrationYield config refusal known registration).map ([·]) := by
  unfold registrationCalls at steady
  unfold generateRegistration registrationYield
  cases emission : emitRegistration config known registration with
  | error cause => rfl
  | ok unit =>
      rw [emission] at steady
      have result : (persistUnits sink state unit.file.qualifiedName [unit]).2 = _ :=
        persistUnits_result steady unit.file.qualifiedName
      simp only [List.map_cons, List.map_nil] at result ⊢
      rw [result]
      cases Sink.firstRefusal? refusal [unit.file] <;> rfl

/-- Steps whose results do not depend on the state give each element's own result. -/
theorem collect_results {α β : Type} {step : σ → α → σ × β}
    {calls : σ → α → List (σ × SourceFile)} {result : α → β} {good : σ × SourceFile → Prop}
    (own : ∀ state a, (∀ call ∈ calls state a, good call) → (step state a).2 = result a)
    {state : σ} {items : List α}
    (steady : ∀ call ∈ collectCalls step calls state items, good call) :
    (collect step state items).2 = items.map fun a => (a, result a) := by
  induction items generalizing state with
  | nil => rfl
  | cons a rest ih =>
      have first := own state a fun call found => steady call (by simp [collectCalls, found])
      have steadyRest : ∀ call ∈ collectCalls step calls (step state a).1 rest, good call :=
        fun call found => steady call (by simp [collectCalls, found])
      simp [collect, first, ih steadyRest]

/-- The entries of a result, none when it is a failure. -/
def entriesOf : Except GenerateError (DecodePlan × List GeneratedUnit) → List GeneratedUnit
  | .ok (_, units) => units
  | .error _ => []

/-- What succeeded, with its target, as a report keeps it. -/
def planned (results : List (Target × Except GenerateError (DecodePlan × List GeneratedUnit))) :
    List (Target × DecodePlan × List GeneratedUnit) :=
  results.filterMap fun (target, result) =>
    result.toOption.map fun (plan, units) => (target, plan, units)

section Planned

variable (ofTarget : Target → Except GenerateError (DecodePlan × List GeneratedUnit))
  (targets : List Target)

theorem planned_plans :
    (planned (targets.map fun t => (t, ofTarget t))).map (·.2.1) =
      targets.filterMap fun t => (ofTarget t).toOption.map (·.1) := by
  simp only [planned, List.filterMap_map, List.map_filterMap]
  congr
  funext t
  cases result : ofTarget t <;> simp [result, Except.toOption]

theorem planned_units :
    (planned (targets.map fun t => (t, ofTarget t))).flatMap (·.2.2) =
      targets.flatMap fun t => entriesOf (ofTarget t) := by
  induction targets with
  | nil => rfl
  | cons t rest ih =>
      rw [List.flatMap_cons, ← ih]
      cases result : ofTarget t with
      | error cause => simp [planned, result, entriesOf, Except.toOption]
      | ok yielded => simp [planned, result, entriesOf, Except.toOption]

theorem planned_targets :
    (planned (targets.map fun t => (t, ofTarget t))).map (·.1) =
      targets.filter fun t => (ofTarget t).toOption.isSome := by
  induction targets with
  | nil => rfl
  | cons t rest ih =>
      rw [List.filter_cons, ← ih]
      cases result : ofTarget t with
      | error cause => simp [planned, result, Except.toOption]
      | ok yielded => simp [planned, result, Except.toOption]

end Planned

theorem registered_entries (ofRegistration : Registration → Except GenerateError GeneratedUnit)
    (registrations : List Registration) :
    ((registrations.map fun r => (r, (ofRegistration r).map ([·]))).filterMap
        (·.2.toOption)).flatten =
      registrations.filterMap fun r => (ofRegistration r).toOption := by
  induction registrations with
  | nil => rfl
  | cons r rest ih =>
      rw [List.filterMap_cons, ← ih]
      cases result : ofRegistration r with
      | error cause => simp [result, Except.map, Except.toOption]
      | ok entry => simp [result, Except.map, Except.toOption]

theorem failure?_map {α β : Type} (result : Except GenerateError α) (f : α → β) :
    failure? (result.map f) = failure? result := by
  cases result <;> rfl

/-- The report of a round whose calls are answered by the file. -/
theorem run_report {state : σ} {targets : List Target} {registrations : List Registration}
    (steady : ∀ call ∈ calls config sink state targets registrations,
      sink.AnswersBy refusal call) :
    (run config sink state targets registrations).2 =
      report (targets.map fun t => (t, targetYield config refusal t))
        (registrations.map fun r =>
          (r, (registrationYield config refusal targets r).map ([·]))) := by
  have ofTargets : (collect (generateTarget config sink) state targets).2 =
      targets.map fun t => (t, targetYield config refusal t) := by
    refine collect_results generateTarget_result fun call found => ?_
    exact steady call (List.mem_append_left _ found)
  have ofRegistrations :
      (collect (generateRegistration config targets sink)
        (collect (generateTarget config sink) state targets).1 registrations).2 =
        registrations.map fun r => (r, (registrationYield config refusal targets r).map ([·])) := by
    refine collect_results (generateRegistration_result targets) fun call found => ?_
    exact steady call (List.mem_append_right _ found)
  unfold run
  dsimp only
  rw [ofTargets, ofRegistrations]

/-- A report that adds up, in order, what targets and then registrations yield. -/
structure IsSum (result : RoundReport)
    (ofTarget : Target → Except GenerateError (DecodePlan × List GeneratedUnit))
    (ofRegistration : Registration → Except GenerateError GeneratedUnit) (targets : List Target)
    (registrations : List Registration) : Prop where
  plans : result.plans = targets.filterMap fun t => (ofTarget t).toOption.map (·.1)
  generated : result.generated = targets.flatMap (fun t => entriesOf (ofTarget t)) ++
    registrations.filterMap fun r => (ofRegistration r).toOption
  failures : result.failures = targets.filterMap (fun t => failure? (ofTarget t)) ++
    registrations.filterMap fun r => failure? (ofRegistration r)
  warnings : result.warnings =
    checkConsistency (targets.filter fun t => (ofTarget t).toOption.isSome) registrations

theorem report_isSum (ofTarget : Target → Except GenerateError (DecodePlan × List GeneratedUnit))
    (ofRegistration : Registration → Except GenerateError GeneratedUnit) (targets : List Target)
    (registrations : List Registration) :
    IsSum (report (targets.map fun t => (t, ofTarget t))
        (registrations.map fun r => (r, (ofRegistration r).map ([·]))))
      ofTarget ofRegistration targets registrations where
  plans := planned_plans ofTarget targets
  generated := by
    rw [← planned_units ofTarget targets, ← registered_entries ofRegistration registrations]
    rfl
  failures := by simp [report, List.filterMap_map, Function.comp_def, failure?_map]
  warnings := by
    have succeeded := planned_targets ofTarget targets
    have known : (registrations.map fun r => (r, (ofRegistration r).map ([·]))).map (·.1) =
        registrations := by simp [Function.comp_def]
    rw [← succeeded]
    exact congrArg (checkConsistency _) known

theorem run_isSum {state : σ} {targets : List Target} {registrations : List Registration}
    (steady : ∀ call ∈ calls config sink state targets registrations,
      sink.AnswersBy refusal call) :
    IsSum (run config sink state targets registrations).2 (targetYield config refusal)
      (registrationYield config refusal targets) targets registrations := by
  rw [run_report steady]
  exact report_isSum _ _ targets registrations

/-- The units of a target: its adapter, then its factory if it asks for one. -/
theorem emitTarget_kinds {target : Target} {emitted : EmittedTarget}
    (emission : emitTarget config target = .ok emitted) :
    emitted.units.map (·.kind) =
      .adapter :: if target.flags.generateFactory then [.factory] else [] := by
  obtain ⟨package, fields, -, -, -, -, units⟩ := emitTarget_eq_ok_iff.mp emission
  rw [← units, unitsOf]
  split <;> rfl

/-- A round adds up what its targets and then its registrations yield. Each target yields a plan or
a failure but not both, its adapter stands before its factory, and a round of the target alone
reports the same of it, whatever sink of the same refusals it goes to. -/
theorem run_eq_sum_of_yields (config : Config) (refusal : SourceFile → Option WriteError)
    (sink : Sink σ) (state : σ) (targets : List Target) (registrations : List Registration)
    (steady : ∀ call ∈ calls config sink state targets registrations,
      sink.AnswersBy refusal call) :
    IsSum (run config sink state targets registrations).2 (targetYield config refusal)
        (registrationYield config refusal targets) targets registrations ∧
      ∀ target ∈ targets,
        ((targetYield config refusal target).toOption.isSome ↔
            failure? (targetYield config refusal target) = none) ∧
          (∀ emitted, emitTarget config target = .ok emitted →
            emitted.units.map (·.kind) =
              .adapter :: if target.flags.generateFactory then [.factory] else []) ∧
          ∀ (τ : Type) (other : Sink τ) (start : τ),
            (∀ call ∈ calls config other start [target] [], other.AnswersBy refusal call) →
              (run config other start [target] []).2.plans =
                  ((targetYield config refusal target).toOption.map (·.1)).toList ∧
                (run config other start [target] []).2.generated =
                  entriesOf (targetYield config refusal target) ∧
                (run config other start [target] []).2.failures =
                  (failure? (targetYield config refusal target)).toList := by
  refine ⟨run_isSum steady, fun target _ => ⟨?_, fun _ => emitTarget_kinds, ?_⟩⟩
  · cases targetYield config refusal target <;> simp [Except.toOption, failure?]
  · intro τ other start steadyAlone
    obtain ⟨plans, generated, failures, _⟩ := run_isSum steadyAlone
    rw [plans, generated, failures]
    cases own : targetYield config refusal target <;>
      simp [own, Except.toOption, failure?, entriesOf]

/-- Of three targets one is generated, one is refused its factory and one has no package. -/
theorem run_three_targets :
    let field : Parameter := { name := "x", type := .string }
    let plain : Target :=
      { qualifiedName := "a.A", package := some "a", constructors := [[field]],
        flags := { generateFactory := true } }
    let refused : Target := { plain with qualifiedName := "a.B" }
    let homeless : Target := { plain with package := none }
    let sink := MemoryStore.sink ["BAdapterFactory"]
    let result := (run {} sink {} [refused, plain, homeless] []).2
    result.generated = [⟨"a.AAdapter", "a.A"⟩, ⟨"a.AAdapterFactory", "a.A"⟩] ∧
      result.failures =
        [.persistence "a.BAdapterFactory" .refused, .unknownPackage "a.A"] := by
  intro field plain refused homeless sink result
  obtain ⟨sum, -⟩ := run_eq_sum_of_yields {} _ sink {} [refused, plain, homeless] []
    fun call _ => MemoryStore.answersBy ["BAdapterFactory"] call
  exact ⟨sum.generated.trans (by decide), sum.failures.trans (by decide)⟩

end Round

end AdapterGen
