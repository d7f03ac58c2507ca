import AdapterGen.Log
import AdapterGen.Round
import AdapterGen.Sink.Directory
import AdapterGen.Sink.Memory

/-!
# Logged rounds

A round that keeps a log of what it does. The log goes along with the state of
the sink and changes nothing else.
-/

namespace AdapterGen

open Code Emission

/-- A state, and the log up to it. -/
structure Logged (σ : Type) where
  state : σ
  log : List LogEvent := []

namespace Logged

/-- Adds entries to the log. -/
def note {σ : Type} (logged : Logged σ) (events : List LogEvent) : Logged σ :=
  ⟨logged.state, logged.log ++ events⟩

/-- A sink that logs what is persisted and discarded. -/
def sink {σ : Type} (sink : Sink σ) (persisted : SourceFile → List LogEvent)
    (discarded : σ → (package name : String) → List LogEvent) : Sink (Logged σ) where
  persist logged file :=
    (sink.persist logged.state file).map fun next => ⟨next, logged.log ++ persisted file⟩
  discard logged package name :=
    ⟨sink.discard logged.state package name, logged.log ++ discarded logged.state package name⟩

variable {σ : Type} (inner : Sink σ) (persisted : SourceFile → List LogEvent)
  (discarded : σ → (package name : String) → List LogEvent)

theorem state_discardAll (logged : Logged σ) (files : List SourceFile) :
    ((sink inner persisted discarded).discardAll logged files).state =
      inner.discardAll logged.state files := by
  induction files generalizing logged with
  | nil => rfl
  | cons file rest ih => exact ih _

theorem persistAfter_sink (earlier : List SourceFile) (logged : Logged σ)
    (files : List SourceFile) :
    (((sink inner persisted discarded).persistAfter earlier logged files).1.state,
        ((sink inner persisted discarded).persistAfter earlier logged files).2) =
      inner.persistAfter earlier logged.state files := by
  induction files generalizing earlier logged with
  | nil => rfl
  | cons file rest ih =>
      simp only [Sink.persistAfter, sink]
      cases h : inner.persist logged.state file with
      | ok next => exact ih _ _
      | error error =>
          exact congrArg (·, some error)
            (state_discardAll inner persisted discarded logged earlier)

end Logged

/-- The memory sink without refusals; it has nothing to log. -/
def MemoryStore.loggedSink : Sink (Logged MemoryStore) :=
  Logged.sink (MemoryStore.sink []) (fun _ => []) fun _ _ _ => []

/-- The directory sink with a log of the files that come and go. -/
def DirectoryStore.loggedSink (root indent : String) : Sink (Logged DirectoryStore) :=
  Logged.sink (DirectoryStore.sink root indent)
    (fun file => [.written (pathOf root file)])
    fun store package name =>
      let path := discardPath root package name
      if store.tree.isFile (FilePath.resolve path) then [.removed path] else [.notRemoved path]

namespace Round

/-- What planning a target logs: the reads chosen up to the first field that has none, and a
writer that is not asked for. -/
def planningEvents (config : Config) (target : Target) : List LogEvent :=
  let checked : Except GenerateError (List Field) := do
    target.checkVisibility
    let _ ← target.requirePackage
    target.fields config
  match checked with
  | .error _ => []
  | .ok fields =>
      let (plans, stopped) := DecodePlan.planFields target.qualifiedName [] fields
      plans.map (fun p => .strategySelected target.qualifiedName p.field.name) ++
        if stopped.isNone && !target.flags.generateWriter then
          [.writerLeftOut target.qualifiedName]
        else []

/-- What a result logs. -/
def resultEvents : Except GenerateError (List GeneratedUnit) → List LogEvent
  | .ok units => units.map fun unit => .generated unit.name
  | .error cause => [.failed cause]

/-- Generates one target with a log. -/
def logTarget {σ : Type} (config : Config) (sink : Sink (Logged σ)) (logged : Logged σ)
    (target : Target) : Logged σ × Except GenerateError (DecodePlan × List GeneratedUnit) :=
  let (next, result) :=
    generateTarget config sink (logged.note (planningEvents config target)) target
  (next.note (resultEvents (result.map (·.2))), result)

/-- Generates the factory of one registration with a log. -/
def logRegistration {σ : Type} (config : Config) (known : List Target) (sink : Sink (Logged σ))
    (logged : Logged σ) (registration : Registration) :
    Logged σ × Except GenerateError (List GeneratedUnit) :=
  let (next, result) := generateRegistration config known sink logged registration
  (next.note (resultEvents result), result)

/-- The entry about the end of a phase, if phases are traced. -/
def phaseEvents (traced : Bool) (phase : Phase) : List LogEvent :=
  if traced then [.phaseFinished phase] else []

/-- Runs a round with a log, and traces its phases if asked to. -/
def runLogged {σ : Type} (config : Config) (traced : Bool) (sink : Sink (Logged σ)) (state : σ)
    (targets : List Target) (registrations : List Registration) : Logged σ × RoundReport :=
  let start : Logged σ := ⟨state, [.roundStarted targets.length registrations.length]⟩
  let (middle, ofTargets) := collect (logTarget config sink) start targets
  let (last, ofRegistrations) :=
    collect (logRegistration config targets sink)
      (middle.note (phaseEvents traced .targets)) registrations
  let result := report ofTargets ofRegistrations
  let finished :=
    if traced then [.roundFinished result.adapterCount registrations.length] else []
  (last.note (phaseEvents traced .registrations ++ result.warnings.map .inconsistent ++ finished ++
    phaseEvents traced .whole), result)

/-! ### The log changes nothing else -/

section Agreement

variable {σ : Type} (inner : Sink σ) (persisted : SourceFile → List LogEvent)
  (discarded : σ → (package name : String) → List LogEvent)

/-- A result without the log that goes along with its state. -/
def withoutLog {β : Type} (result : Logged σ × β) : σ × β := (result.1.state, result.2)

theorem persistUnits_sink (logged : Logged σ) (origin : String) (units : List EmittedUnit) :
    withoutLog (persistUnits (Logged.sink inner persisted discarded) logged origin units) =
      persistUnits inner logged.state origin units := by
  have agree :=
    Logged.persistAfter_sink inner persisted discarded [] logged (units.map (·.file))
  simp only [persistUnits, Sink.persistAll]
  rw [← agree]
  split <;> rename_i found <;> rw [found] <;> rfl

theorem logTarget_sink (config : Config) (logged : Logged σ) (target : Target) :
    withoutLog (logTarget config (Logged.sink inner persisted discarded) logged target) =
      generateTarget config inner logged.state target := by
  simp only [logTarget, generateTarget, withoutLog]
  cases emitTarget config target with
  | error error => rfl
  | ok emitted =>
      have agree :=
        persistUnits_sink inner persisted discarded
          (logged.note (planningEvents config target)) target.qualifiedName emitted.units
      simp only [Logged.note] at agree
      simp only [Logged.note]
      rw [← agree]
      split <;> rename_i found <;> rw [found] <;> rfl

theorem logRegistration_sink (config : Config) (known : List Target) (logged : Logged σ)
    (registration : Registration) :
    withoutLog
        (logRegistration config known (Logged.sink inner persisted discarded) logged
          registration) =
      generateRegistration config known inner logged.state registration := by
  simp only [logRegistration, generateRegistration, withoutLog]
  cases emitRegistration config known registration with
  | error error => rfl
  | ok unit =>
      exact persistUnits_sink inner persisted discarded logged unit.file.qualifiedName [unit]

theorem collect_withoutLog {α β : Type} {step : Logged σ → α → Logged σ × β}
    {bare : σ → α → σ × β} (agree : ∀ logged a, withoutLog (step logged a) = bare logged.state a)
    (logged : Logged σ) (items : List α) :
    withoutLog (collect step logged items) = collect bare logged.state items := by
  induction items generalizing logged with
  | nil => rfl
  | cons a rest ih => simp only [collect, ← agree, withoutLog, ← ih]

/-- A logged round leaves the state and gives the report of the round without a log. -/
theorem runLogged_sink (config : Config) (traced : Bool) (state : σ) (targets : List Target)
    (registrations : List Registration) :
    withoutLog
        (runLogged config traced (Logged.sink inner persisted discarded) state targets
          registrations) =
      run config inner state targets registrations := by
  have ofTargets :=
    collect_withoutLog
      (logTarget_sink inner persisted discarded config)
      ⟨state, [.roundStarted targets.length registrations.length]⟩ targets
  have ofRegistrations (logged : Logged σ) :=
    collect_withoutLog
      (logRegistration_sink inner persisted discarded config targets)
      (logged.note (phaseEvents traced .targets)) registrations
  simp only [Logged.note] at ofTargets ofRegistrations
  simp only [run, ← ofTargets, withoutLog, ← ofRegistrations]
  rfl

end Agreement

end Round

end AdapterGen
