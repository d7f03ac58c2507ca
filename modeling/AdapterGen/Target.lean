import AdapterGen.Naming
import AdapterGen.Text.Blank
import AdapterGen.TypeDescriptor

/-!
# Targets and registrations

What the providers of metadata describe: classes to decode, with the
constructors they declare, and factories that register several of them.
-/

namespace AdapterGen

/-- The options of a target's generation marker. -/
structure GenerateFlags where
  /-- Whether the target gets a factory of its own. -/
  generateFactory : Bool := false
  /-- Kept with the target; the writer passes through either way. -/
  generateWriter : Bool := true
  /-- Whether the adapter logs what it does. -/
  debugLogs : Bool := false
  deriving DecidableEq, Repr

/-- The declared modifiers that matter. -/
structure Visibility where
  isPublic : Bool := true
  isAbstract : Bool := false
  deriving DecidableEq, Repr

/-- A declared constructor parameter. -/
structure Parameter where
  name : String
  type : TypeDescriptor
  annotations : List String := []
  /-- The JSON key, when it is not the name. -/
  jsonName : Option String := none
  deriving DecidableEq, Repr

/-- A class to decode. The package is `none` when it is not known. -/
structure Target where
  qualifiedName : String
  package : Option String := none
  visibility : Visibility := {}
  /-- The parameters of every declared constructor. -/
  constructors : List (List Parameter) := []
  flags : GenerateFlags := {}
  deriving DecidableEq, Repr

/-- The class name without package or enclosing classes. -/
def Target.simpleName (target : Target) : String := Naming.simpleName target.qualifiedName

/-- A parameter of the one constructor, as it is decoded. -/
structure Field where
  name : String
  jsonName : String
  type : TypeDescriptor
  nullable : Bool
  deriving DecidableEq, Repr

/-- A factory that registers the adapters of several targets. -/
structure Registration where
  /-- The package in which the registration stands. -/
  declaredIn : Option String := none
  targetClassName : String := "MoshiFactory"
  /-- The package asked for. -/
  targetPackage : Option String := none
  types : List String
  deriving DecidableEq, Repr

namespace Registration

/-- The package of the factory: the one asked for unless it is blank, else the declaring one. -/
def resolvedPackage? (registration : Registration) : Option String :=
  match registration.targetPackage with
  | some package =>
      if Text.trim package = "" then registration.declaredIn else some (Text.trim package)
  | none => registration.declaredIn

/-- The qualified name of the factory, when its package is known. -/
def qualifiedName? (registration : Registration) : Option String :=
  registration.resolvedPackage?.map (Naming.qualify · registration.targetClassName)

end Registration

end AdapterGen
