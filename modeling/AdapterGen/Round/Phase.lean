/-!
# Phases

The parts of a round that are timed when asked for.
-/

namespace AdapterGen

/-- A timed part of a round. -/
inductive Phase where
  | targets
  | registrations
  | whole
  deriving DecidableEq, Repr

namespace Phase

/-- The name under which a time is reported. -/
def name : Phase → String
  | targets => "data classes"
  | registrations => "factories"
  | whole => "round"

/-- The phases in the order in which they end. -/
def all : List Phase := [targets, registrations, whole]

end Phase

end AdapterGen
