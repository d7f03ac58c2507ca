import AdapterGen.Model
import AdapterGen.Text.Blank
import AdapterGen.TypeDescriptor.Parse

/-!
# Manifests

Classes and factories as a manifest describes them, the checks on them, and the
model that they give.
-/

namespace AdapterGen

/-- A constructor parameter of a manifest; its type is still a text. -/
structure ManifestParameter where
  name : String
  type : String
  nullable : Bool := false
  annotations : List String := []
  json : Option String := none
  deriving DecidableEq, Repr

/-- A class of a manifest. -/
structure ManifestClass where
  name : String
  package : Option String := none
  isPublic : Bool := true
  isAbstract : Bool := false
  flags : GenerateFlags := {}
  constructors : List (List ManifestParameter) := []
  deriving DecidableEq, Repr

/-- A factory of a manifest. -/
structure ManifestFactory where
  package : Option String := none
  targetClassName : String := "MoshiFactory"
  targetPackage : Option String := none
  types : List String
  deriving DecidableEq, Repr

/-- A manifest. -/
structure Manifest where
  config : Config := {}
  classes : List ManifestClass := []
  factories : List ManifestFactory := []
  deriving DecidableEq, Repr

/-- What is wrong with a manifest before its types are read. -/
inductive ManifestError where
  | emptyClassName
  | emptyParameterName (className : String)
  | emptyType (parameter className : String)
  | nullableUnmarked (parameter className : String)
  | emptyFactoryName
  | emptyFactory (name : String)
  deriving DecidableEq, Repr

/-- The wording of a manifest error. -/
def ManifestError.message : ManifestError → String
  | emptyClassName => "Class name cannot be empty"
  | emptyParameterName className =>
      "Parameter name cannot be empty in class '" ++ className ++ "'"
  | emptyType parameter className =>
      "Parameter '" ++ parameter ++ "' of class '" ++ className ++ "' has no type"
  | nullableUnmarked parameter className =>
      "Parameter '" ++ parameter ++ "' of class '" ++ className ++
        "' is nullable but [generator] nullable_annotations is empty"
  | emptyFactoryName => "Factory class name cannot be empty"
  | emptyFactory name => "Factory '" ++ name ++ "' does not register any types"

/-- Why a parameter does not translate. -/
inductive ParameterError where
  | type (input : String) (error : TypeDescriptor.SyntaxError)
  | noMarker
  deriving DecidableEq, Repr

/-- The wording of a parameter error. -/
def ParameterError.message : ParameterError → String
  | type input error => error.message input
  | noMarker => "nullable requires a configured nullable annotation"

/-- The parameter that keeps a manifest from giving a model. -/
structure ModelError where
  parameter : String
  className : String
  cause : ParameterError
  deriving DecidableEq, Repr

/-- The wordings of a model error, from the outermost to the innermost. -/
def ModelError.chain (error : ModelError) : List String :=
  ["Invalid parameter '" ++ error.parameter ++ "' in class '" ++ error.className ++ "'",
    error.cause.message]

namespace Manifest

/-- Checks one parameter. -/
def checkParameter (config : Config) (className : String) (parameter : ManifestParameter) :
    Except ManifestError Unit :=
  if Text.isAllBlank parameter.name then .error (.emptyParameterName className)
  else if Text.isAllBlank parameter.type then .error (.emptyType parameter.name className)
  else if parameter.nullable && config.nullableAnnotations.isEmpty then
    .error (.nullableUnmarked parameter.name className)
  else .ok ()

/-- Checks one class. -/
def checkClass (config : Config) (entry : ManifestClass) : Except ManifestError Unit :=
  if Text.isAllBlank entry.name then .error .emptyClassName
  else entry.constructors.flatten.forM (checkParameter config entry.name)

/-- Checks one factory. -/
def checkFactory (entry : ManifestFactory) : Except ManifestError Unit :=
  if Text.isAllBlank entry.targetClassName then .error .emptyFactoryName
  else if entry.types.isEmpty then .error (.emptyFactory entry.targetClassName)
  else .ok ()

/-- Checks the classes, then the factories; the first problem is reported. -/
def validate (manifest : Manifest) : Except ManifestError Unit := do
  manifest.classes.forM (checkClass manifest.config)
  manifest.factories.forM checkFactory

/-- The package of a class: the one given, else the one its name has, else the default. -/
def packageOf? (defaultPackage : Option String) (entry : ManifestClass) : Option String :=
  entry.package <|> Naming.packageOf? (Text.trim entry.name) <|> defaultPackage

/-- The qualified name of a class; a dotted name stands as it is. -/
def qualifiedName (defaultPackage : Option String) (entry : ManifestClass) : String :=
  let name := Text.trim entry.name
  if name.toList.contains '.' then name
  else Naming.qualify? (packageOf? defaultPackage entry) name

/-- The parameter that an entry describes; a nullable one gets the marker as its last
annotation. -/
def parameterOf (marker : Option String) (entry : ManifestParameter) :
    Except ParameterError Parameter :=
  match TypeDescriptor.parse entry.type with
  | .error error => .error (.type entry.type error)
  | .ok type =>
      let parameter : Parameter :=
        ⟨Text.trim entry.name, type, entry.annotations, entry.json⟩
      if entry.nullable then
        match marker with
        | none => .error .noMarker
        | some marker =>
            .ok { parameter with annotations := entry.annotations ++ [marker] }
      else .ok parameter

/-- The parameter of a class, with its place in the error. -/
def parameterIn (marker : Option String) (className : String) (entry : ManifestParameter) :
    Except ModelError Parameter :=
  match parameterOf marker entry with
  | .ok parameter => .ok parameter
  | .error cause => .error ⟨entry.name, className, cause⟩

/-- The target that a class describes. -/
def targetOf (defaultPackage marker : Option String) (entry : ManifestClass) :
    Except ModelError Target := do
  let constructors ←
    entry.constructors.mapM (·.mapM (parameterIn marker (Text.trim entry.name)))
  return {
    qualifiedName := qualifiedName defaultPackage entry
    package := packageOf? defaultPackage entry
    visibility := ⟨entry.isPublic, entry.isAbstract⟩
    constructors := constructors
    flags := entry.flags }

/-- The registration that a factory describes. -/
def registrationOf (defaultPackage : Option String) (entry : ManifestFactory) : Registration where
  declaredIn := entry.package <|> defaultPackage
  targetClassName := entry.targetClassName
  targetPackage := entry.targetPackage
  types := entry.types

/-- The model of a manifest, or the first parameter that does not translate. -/
def toModel (manifest : Manifest) (defaultPackage : Option String) : Except ModelError Model := do
  let targets ←
    manifest.classes.mapM (targetOf defaultPackage manifest.config.nullableMarker?)
  return ⟨manifest.config, targets, manifest.factories.map (registrationOf defaultPackage)⟩

end Manifest

end AdapterGen
