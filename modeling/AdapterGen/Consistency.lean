import AdapterGen.Target
import AdapterGen.Text.Ascending

/-!
# Consistency of registrations

Types registered more than once, and generated adapters that nothing registers.
-/

namespace AdapterGen

/-- A problem with the registrations of a round. -/
inductive ConsistencyWarning where
  | multiple (type : String) (count : Nat)
  | notRegistered (type : String)
  deriving DecidableEq, Repr

namespace ConsistencyWarning

/-- The type concerned. -/
def typeName : ConsistencyWarning → String
  | multiple type _ | notRegistered type => type

/-- The wording of a warning. -/
def message : ConsistencyWarning → String
  | multiple type _ => "Class '" ++ type ++ "' is registered in multiple factories"
  | notRegistered type => "Class '" ++ type ++ "' is not registered in any factory"

end ConsistencyWarning

/-- Every registered type, as often as it is registered. -/
def registeredTypes (registrations : List Registration) : List String :=
  registrations.flatMap (·.types)

/-- First the types registered more than once, ascending, then the targets that neither have a
factory of their own nor are registered, in their order. -/
def checkConsistency (generated : List Target) (registrations : List Registration) :
    List ConsistencyWarning :=
  let registered := registeredTypes registrations
  let repeated := (Text.ascending registered).filter (1 < registered.count ·)
  let missing := generated.filter fun t =>
    !t.flags.generateFactory && !registered.contains t.qualifiedName
  repeated.map (fun type => .multiple type (registered.count type)) ++
    missing.map fun t => .notRegistered t.qualifiedName

end AdapterGen
