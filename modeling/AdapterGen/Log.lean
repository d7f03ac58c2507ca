import AdapterGen.Consistency
import AdapterGen.DecodePlan
import AdapterGen.Round.Phase

/-!
# The log

What is worth telling about a run, how severe it is, and how it is worded.
-/

namespace AdapterGen

/-- How much an entry of the log matters, the most first. -/
inductive Severity where
  | error
  | warning
  | info
  | debug
  deriving DecidableEq, Repr

/-- The label of a severity. -/
def Severity.label : Severity → String
  | error => "ERROR"
  | warning => "WARN"
  | info => "INFO"
  | debug => "DEBUG"

/-- An entry of the log. -/
inductive LogEvent where
  | roundStarted (targets registrations : Nat)
  | strategySelected (target field : String)
  | writerLeftOut (target : String)
  | written (path : String)
  | removed (path : String)
  | notRemoved (path : String)
  | generated (unit : String)
  | failed (cause : GenerateError)
  | inconsistent (cause : ConsistencyWarning)
  | configIgnored
  | phaseFinished (phase : Phase)
  | roundFinished (adapters factories : Nat)
  deriving DecidableEq, Repr

namespace LogEvent

/-- The severity of an entry. -/
def severity : LogEvent → Severity
  | failed _ => .error
  | inconsistent _ | configIgnored | notRemoved _ => .warning
  | generated _ | phaseFinished _ | roundFinished _ _ => .info
  | roundStarted _ _ | strategySelected _ _ | writerLeftOut _ | written _ | removed _ => .debug

/-- The wording of an entry. -/
def message : LogEvent → String
  | roundStarted targets registrations =>
      "starting a round of " ++ toString targets ++ " target(s) and " ++ toString registrations ++
        " factory(s)"
  | strategySelected target field => "chose how " ++ target ++ " reads '" ++ field ++ "'"
  | writerLeftOut target => target ++ " asks for no writer; the encoder passes through either way"
  | written path => "wrote " ++ path
  | removed path => "removed " ++ path
  | notRemoved path => "failed to remove " ++ path
  | generated unit => "generated " ++ unit
  | failed cause => cause.fullMessage
  | inconsistent cause => cause.message
  | configIgnored => "--config is ignored with --model; use the [generator] table"
  | phaseFinished phase => "finished phase " ++ phase.name
  | roundFinished adapters factories =>
      "generated " ++ toString adapters ++ " adapter(s) and " ++ toString factories ++
        " factory(s)"

/-- Whether an entry is shown; details are shown only when asked for. -/
def isShown (verbose : Bool) (event : LogEvent) : Bool := verbose || event.severity ≠ .debug

/-- The line of an entry. -/
def line (event : LogEvent) : String := event.severity.label ++ " " ++ event.message

end LogEvent

end AdapterGen
