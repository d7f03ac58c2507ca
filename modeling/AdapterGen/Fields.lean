import AdapterGen.Config
import AdapterGen.GenerateError
import AdapterGen.Target

/-!
# The fields of a target

A target is a public, concrete class of a known package with exactly one
constructor, which has parameters. They are the fields, in order.
-/

namespace AdapterGen.Target

/-- Refuses a class that is not public or is abstract. -/
def checkVisibility (target : Target) : Except GenerateError Unit :=
  if !target.visibility.isPublic then
    .error (.invalidVisibility target.qualifiedName .notPublic)
  else if target.visibility.isAbstract then
    .error (.invalidVisibility target.qualifiedName .isAbstract)
  else .ok ()

/-- The package that the generated units go to. -/
def requirePackage (target : Target) : Except GenerateError String :=
  match target.package with
  | some package => .ok package
  | none => .error (.unknownPackage target.qualifiedName)

/-- The field that a parameter declares. -/
def fieldOf (config : Config) (parameter : Parameter) : Field where
  name := parameter.name
  jsonName := parameter.jsonName.getD parameter.name
  type := parameter.type
  nullable := parameter.annotations.any config.isNullableMarker

/-- The fields that the only constructor declares. -/
def fields (target : Target) (config : Config) : Except GenerateError (List Field) :=
  match target.constructors with
  | [] => .error (.missingConstructor target.qualifiedName)
  | [[]] => .error (.emptyConstructor target.qualifiedName)
  | [parameters] => .ok (parameters.map (fieldOf config))
  | constructors => .error (.multipleConstructors target.qualifiedName constructors.length)

end AdapterGen.Target
