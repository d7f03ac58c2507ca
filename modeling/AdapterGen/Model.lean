import AdapterGen.Config
import AdapterGen.Target

/-!
# Models

Everything that a round works on, as a manifest or a source gives it.
-/

namespace AdapterGen

/-- The settings, targets and registrations of a round. -/
structure Model where
  config : Config := {}
  targets : List Target := []
  registrations : List Registration := []
  deriving DecidableEq, Repr

end AdapterGen
