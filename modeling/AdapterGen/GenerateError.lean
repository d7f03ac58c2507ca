import AdapterGen.PrimitiveKind

/-!
# Generation errors

Why a target or a factory is not generated. Each cause names what it was found
in, and `message` is its wording.
-/

namespace AdapterGen

/-- What keeps a class from being a target. -/
inductive VisibilityViolation where
  | notPublic
  | isAbstract
  deriving DecidableEq, Repr

/-- Why a file could not be written. -/
inductive WriteError where
  | isDirectory
  | notDirectory
  | fileExists
  | notFound
  | refused
  deriving DecidableEq, Repr

/-- The operating system's wording. -/
def WriteError.message : WriteError → String
  | isDirectory => "Is a directory (os error 21)"
  | notDirectory => "Not a directory (os error 20)"
  | fileExists => "File exists (os error 17)"
  | notFound => "No such file or directory (os error 2)"
  | refused => "refused"

/-- Why generation of one target or factory failed. -/
inductive GenerateError where
  | missingConstructor (type : String)
  | multipleConstructors (type : String) (count : Nat)
  | emptyConstructor (type : String)
  | unsupportedPrimitive (type field : String) (kind : PrimitiveKind)
  | unsupportedPrimitiveArray (type field fieldType : String)
  | duplicateJsonKey (type key : String)
  | invalidVisibility (type : String) (violation : VisibilityViolation)
  | unknownPackage (type : String)
  | persistence (unit : String) (cause : WriteError)
  deriving DecidableEq, Repr

namespace GenerateError

/-- What the error was found in: a type, or the unit that was not written. -/
def typeName : GenerateError → String
  | missingConstructor type | multipleConstructors type _ | emptyConstructor type
  | unsupportedPrimitive type _ _ | unsupportedPrimitiveArray type _ _
  | duplicateJsonKey type _ | invalidVisibility type _ | unknownPackage type => type
  | persistence unit _ => unit

/-- The field concerned, for an error about one field's type. -/
def field? : GenerateError → Option String
  | unsupportedPrimitive _ field _ | unsupportedPrimitiveArray _ field _ => some field
  | _ => none

/-- The wording of an error, up to the cause of a failed write. -/
def message : GenerateError → String
  | missingConstructor type => "class " ++ type ++ " must have a constructor"
  | multipleConstructors type count =>
      "class " ++ type ++ " must have only 1 constructor, found " ++ toString count
  | emptyConstructor type => "class " ++ type ++ " must have a non-empty constructor"
  | unsupportedPrimitive type field kind =>
      "class " ++ type ++ ": field '" ++ field ++ "' has unsupported primitive type " ++
        kind.keyword
  | unsupportedPrimitiveArray type field fieldType =>
      "class " ++ type ++ ": field '" ++ field ++ "' is a primitive array (" ++ fieldType ++
        "), which is not supported"
  | duplicateJsonKey type key =>
      "class " ++ type ++ ": json key '" ++ key ++ "' is used by more than one field"
  | invalidVisibility type .notPublic => "class " ++ type ++ " is not public"
  | invalidVisibility type .isAbstract => "class " ++ type ++ " is abstract"
  | unknownPackage type => "failed to find package of " ++ type
  | persistence unit _ => "failed to persist " ++ unit ++ ": "

/-- The wording with the cause of a failed write. -/
def fullMessage : GenerateError → String
  | persistence unit cause => message (persistence unit cause) ++ cause.message
  | error => error.message

end GenerateError

/-- What a generated decoder says when a required key is absent. -/
def missingFieldMessage (jsonName : String) : String :=
  jsonName ++ " is non-optional but was not found in the json"

end AdapterGen
