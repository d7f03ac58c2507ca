import AdapterGen.Source.Option
import AdapterGen.Source.Resolve

/-!
# Scanning sources

The targets and registrations that the items of a source describe, in the order
in which they stand. A package applies to everything inside the module that
names it.
-/

namespace AdapterGen.Source

/-! ### Errors -/

/-- Why a field does not give a parameter. -/
inductive FieldError where
  | unsupportedType (spelling : String)
  | noMarker (field : String)
  | invalidKey
  | invalidRenaming
  deriving DecidableEq, Repr

/-- The wording of a field error. -/
def FieldError.message : FieldError → String
  | unsupportedType spelling => "Unsupported field type: " ++ spelling
  | noMarker field =>
      "Field '" ++ field ++ "' is nullable but no nullable annotation is configured"
  | invalidKey => "#[json] expects name = \"...\""
  | invalidRenaming => "Invalid #[serde] attribute"

/-- Why a source does not give a model. -/
inductive ScanError where
  | unreadable
  | invalidPackage
  | invalidFlags (record : String)
  | invalidFactory
  | field (record : String) (cause : FieldError)
  deriving DecidableEq, Repr

/-- The wordings of a scan error, from the outermost to the innermost. -/
def ScanError.chain : ScanError → List String
  | unreadable => ["Failed to parse Rust source"]
  | invalidPackage => ["#[java_package] expects a string literal"]
  | invalidFlags record => ["Invalid #[generate_moshi] on " ++ record]
  | invalidFactory => ["Invalid #[generate_moshi_factory]"]
  | field record cause => ["Unsupported field in struct " ++ record, cause.message]

/-! ### Findings -/

/-- A record that is marked for generation. -/
structure Candidate where
  record : Record
  package : Option String
  flags : GenerateFlags

/-- A factory whose types are still paths. -/
structure PendingFactory where
  declaredIn : Option String
  options : FactoryOptions

/-- Something that a scan finds. -/
inductive Finding where
  | candidate (candidate : Candidate)
  | factory (factory : PendingFactory)

/-- The marked record that a finding is. -/
def Finding.candidate? : Finding → Option Candidate
  | candidate c => some c
  | factory _ => none

/-- The factory that a finding is. -/
def Finding.factory? : Finding → Option PendingFactory
  | candidate _ => none
  | factory f => some f

/-- The first attribute of a name. -/
def attributeNamed? (name : String) (attributes : List Attribute) : Option Attribute :=
  attributes.find? (·.named name)

/-- A value, or an error when there is none. -/
def orError {ε α : Type} (error : ε) : Option α → Except ε α
  | some value => .ok value
  | none => .error error

/-- The package of something with attributes: the one that they name, or the one around it. -/
def packageOf (attributes : List Attribute) (enclosing : Option String) :
    Except ScanError (Option String) :=
  match attributeNamed? "java_package" attributes with
  | some marker => (orError .invalidPackage marker.packageName?).map some
  | none => .ok enclosing

/-- The factories that attributes describe, declared in a package. -/
def factoriesOf (attributes : List Attribute) (package : Option String) :
    Except ScanError (List Finding) :=
  (attributes.filter (·.named "generate_moshi_factory")).mapM fun marker =>
    (orError .invalidFactory marker.factory?).map fun options => .factory ⟨package, options⟩

/-- A record as a candidate, if it is marked. -/
def candidateOf (record : Record) (package : Option String) : Except ScanError (List Finding) :=
  match attributeNamed? "generate_moshi" record.attributes with
  | some marker =>
      (orError (.invalidFlags record.name) marker.flags?).map fun flags =>
        [.candidate ⟨record, package, flags⟩]
  | none => .ok []

namespace Item

mutual

/-- What an item in a package gives, what it declares itself before what is inside of it. -/
def findings (package : Option String) : Item → Except ScanError (List Finding)
  | record r => do
      let own ← packageOf r.attributes package
      let factories ← factoriesOf r.attributes own
      return factories ++ (← candidateOf r own)
  | submodule attributes items => do
      let own ← packageOf attributes package
      let factories ← factoriesOf attributes own
      return factories ++ (← findingsOf own items)
  | enumeration attributes => factoriesOf attributes package
  | other => .ok []

/-- What items in a package give. -/
def findingsOf (package : Option String) : List Item → Except ScanError (List Finding)
  | [] => .ok []
  | item :: items => do return (← findings package item) ++ (← findingsOf package items)

end

end Item

/-! ### Targets -/

/-- A name without the mark of a raw one. -/
def withoutRawMark (name : String) : String :=
  match name.toList with
  | 'r' :: '#' :: rest => String.ofList rest
  | _ => name

/-- The new name that settings of a serialized field give, the last one counting. -/
def renamingOf (attributes : List Attribute) : Except FieldError (Option String) := do
  let names ← (attributes.filter (·.named "serde")).mapM fun marker =>
    orError .invalidRenaming marker.renaming?
  return names.reverse.findSome? id

/-- The key that attributes give a field: one of its own, or the one it is serialized with. -/
def keyOf (attributes : List Attribute) : Except FieldError (Option String) :=
  match attributeNamed? "json" attributes with
  | some marker => (orError .invalidKey marker.key?).map some
  | none => renamingOf attributes

/-- Whether a field may be null. -/
def RecordField.isNullable (field : RecordField) : Bool :=
  field.type.isOptional || field.attributes.any (·.named "nullable")

/-- The annotations of a field: the marker if it may be null. -/
def annotationsOf (marker : Option String) (field : RecordField) :
    Except FieldError (List String) :=
  if field.isNullable then
    (orError (.noMarker (withoutRawMark field.name)) marker).map ([·])
  else .ok []

/-- The parameter that a field declares, in camel case. Unless its attributes give a key, the key
is the field's name as it stands. -/
def parameterOf (marker : Option String) (names : Names) (field : RecordField) :
    Except FieldError Parameter := do
  let plain := withoutRawMark field.name
  let name := Naming.camelCase plain
  let type ← (field.type.resolve names).mapError .unsupportedType
  let annotations ← annotationsOf marker field
  let key ← keyOf field.attributes
  return {
    name := name
    type := type
    annotations := annotations
    jsonName := key <|> if name = plain then none else some plain }

/-- The constructors that the fields of a record give. Fields without names give none. -/
def constructorsOf (marker : Option String) (names : Names) :
    RecordFields → Except FieldError (List (List Parameter))
  | .named fields => do return [← fields.mapM (parameterOf marker names)]
  | .positional => .ok []
  | .unit => .ok [[]]

/-- The qualified name of a candidate. -/
def Candidate.qualifiedName (candidate : Candidate) : String :=
  Naming.qualify? candidate.package candidate.record.name

/-- The target that a candidate gives. -/
def targetOf (marker : Option String) (known : List (String × String)) (candidate : Candidate) :
    Except ScanError Target := do
  let record := candidate.record
  let constructors ←
    (constructorsOf marker ⟨candidate.package, known⟩ record.fields).mapError (.field record.name)
  return {
    qualifiedName := candidate.qualifiedName
    package := candidate.package
    visibility := ⟨record.isPublic, false⟩
    constructors := constructors
    flags := candidate.flags }

/-! ### Registrations -/

/-- The class that a registered path denotes: a path of several names by these names. -/
def registeredName (names : Names) (path : List String) : String :=
  match path with
  | [name] => names.className name
  | _ => Text.join "." path

/-- The registration that a factory gives. -/
def registrationOf (known : List (String × String)) (factory : PendingFactory) : Registration where
  declaredIn := factory.declaredIn
  targetClassName := factory.options.targetClassName.getD "MoshiFactory"
  targetPackage := factory.options.targetPackage
  types := factory.options.types.map (registeredName ⟨factory.declaredIn, known⟩)

/-! ### Whole sources -/

/-- The qualified names of candidates by their names, the latest first. -/
def knownNames (candidates : List Candidate) : List (String × String) :=
  (candidates.map fun c => (c.record.name, c.qualifiedName)).reverse

/-- The targets and registrations of items, with a package for items outside of any. -/
def scanItems (package marker : Option String) (items : List Item) :
    Except ScanError (List Target × List Registration) := do
  let findings ← Item.findingsOf package items
  let candidates := findings.filterMap (·.candidate?)
  let known := knownNames candidates
  let targets ← candidates.mapM (targetOf marker known)
  return (targets, (findings.filterMap (·.factory?)).map (registrationOf known))

/-- The targets and registrations of a source text. -/
def scan (package marker : Option String) (text : String) :
    Except ScanError (List Target × List Registration) := do
  scanItems package marker (← orError .unreadable (readItems? text))

end AdapterGen.Source
