import AdapterGen.Consistency
import AdapterGen.Emission
import AdapterGen.Sink

/-!
# Rounds

A batch of targets and registrations generated into a sink. Each is generated on
its own: a failure is recorded and the round goes on.
-/

namespace AdapterGen

open Emission

/-- A persisted unit, by its qualified name, and what it was generated for. -/
structure GeneratedUnit where
  name : String
  origin : String
  deriving DecidableEq, Repr

/-- The outcome of a round. -/
structure RoundReport where
  generated : List GeneratedUnit := []
  plans : List DecodePlan := []
  failures : List GenerateError := []
  warnings : List ConsistencyWarning := []

namespace RoundReport

/-- Whether nothing failed. -/
def isSuccess (report : RoundReport) : Bool := report.failures.isEmpty

/-- How many targets were generated. -/
def adapterCount (report : RoundReport) : Nat := report.plans.length

end RoundReport

namespace Round

/-- Persists units together; they count as generated only if all of them were persisted. -/
def persistUnits {σ : Type} (sink : Sink σ) (state : σ) (origin : String)
    (units : List EmittedUnit) : σ × Except GenerateError (List GeneratedUnit) :=
  match sink.persistAll state (units.map (·.file)) with
  | (next, none) => (next, .ok (units.map fun u => ⟨u.file.qualifiedName, origin⟩))
  | (next, some error) => (next, .error error)

/-- Generates one target. -/
def generateTarget {σ : Type} (config : Config) (sink : Sink σ) (state : σ) (target : Target) :
    σ × Except GenerateError (DecodePlan × List GeneratedUnit) :=
  match emitTarget config target with
  | .error error => (state, .error error)
  | .ok emitted =>
      match persistUnits sink state target.qualifiedName emitted.units with
      | (next, .ok units) => (next, .ok (emitted.plan, units))
      | (next, .error error) => (next, .error error)

/-- Generates the factory of one registration. -/
def generateRegistration {σ : Type} (config : Config) (known : List Target) (sink : Sink σ)
    (state : σ) (registration : Registration) : σ × Except GenerateError (List GeneratedUnit) :=
  match emitRegistration config known registration with
  | .error error => (state, .error error)
  | .ok unit => persistUnits sink state unit.file.qualifiedName [unit]

/-- Runs a step over a list, keeping the state and what each element gave. -/
def collect {σ α β : Type} (step : σ → α → σ × β) : σ → List α → σ × List (α × β)
  | state, [] => (state, [])
  | state, a :: rest =>
      let (next, result) := step state a
      let (last, results) := collect step next rest
      (last, (a, result) :: results)

/-- The failure of a result, if it is one. -/
def failure? {α : Type} : Except GenerateError α → Option GenerateError
  | .error error => some error
  | .ok _ => none

/-- The report on what each target and each registration gave. The registrations are checked
against the targets that succeeded. -/
def report
    (ofTargets : List (Target × Except GenerateError (DecodePlan × List GeneratedUnit)))
    (ofRegistrations : List (Registration × Except GenerateError (List GeneratedUnit))) :
    RoundReport :=
  let planned := ofTargets.filterMap fun (target, result) =>
    result.toOption.map fun (plan, units) => (target, plan, units)
  let registered := ofRegistrations.filterMap (·.2.toOption)
  { generated := planned.flatMap (·.2.2) ++ registered.flatten
    plans := planned.map (·.2.1)
    failures := ofTargets.filterMap (failure? ·.2) ++ ofRegistrations.filterMap (failure? ·.2)
    warnings := checkConsistency (planned.map (·.1)) (ofRegistrations.map (·.1)) }

/-- Runs the targets, then the registrations. -/
def run {σ : Type} (config : Config) (sink : Sink σ) (state : σ) (targets : List Target)
    (registrations : List Registration) : σ × RoundReport :=
  let (middle, ofTargets) := collect (generateTarget config sink) state targets
  let (last, ofRegistrations) :=
    collect (generateRegistration config targets sink) middle registrations
  (last, report ofTargets ofRegistrations)

end Round

end AdapterGen
