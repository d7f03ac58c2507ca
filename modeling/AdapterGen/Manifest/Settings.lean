import AdapterGen.Config.Settings
import AdapterGen.Document.Toml
import AdapterGen.Manifest

/-!
# Reading a manifest

A manifest from the settings of a document. The flags of a class stand among its
other settings, so a class is always a table.
-/

namespace AdapterGen.Manifest

open Document (withDefault required asText asText? asBool asList)

/-- The parameter that a document gives. -/
def parameterOfDocument? (allowMore : Bool) (document : Document) : Option ManifestParameter := do
  match ← document.settings allowMore ["name", "type", "nullable", "annotations", "json"] with
  | [name, type, nullable, annotations, json] =>
      return {
        name := ← required asText name
        type := ← required asText type
        nullable := ← withDefault false asBool nullable
        annotations := ← withDefault [] (asList asText) annotations
        json := ← withDefault none asText? json }
  | _ => none

/-- The parameters of the constructor that a document gives. -/
def constructorOfDocument? (allowMore : Bool) (document : Document) :
    Option (List ManifestParameter) := do
  match ← document.settings allowMore ["params"] with
  | [params] => withDefault [] (asList (parameterOfDocument? allowMore)) params
  | _ => none

/-- The class that a document gives. -/
def classOfDocument? (allowMore : Bool) : Document → Option ManifestClass
  | .table entries => do
      return {
        name := ← required asText (← Document.setting entries "name")
        package := ← withDefault none asText? (← Document.setting entries "package")
        isPublic := ← withDefault true asBool (← Document.setting entries "public")
        isAbstract := ← withDefault false asBool (← Document.setting entries "abstract")
        flags := {
          generateFactory :=
            ← withDefault false asBool (← Document.setting entries "generate_factory")
          generateWriter :=
            ← withDefault true asBool (← Document.setting entries "generate_writer")
          debugLogs := ← withDefault false asBool (← Document.setting entries "debug_logs") }
        constructors :=
          ← withDefault [] (asList (constructorOfDocument? allowMore))
            (← Document.setting entries "constructor") }
  | _ => none

/-- The factory that a document gives. -/
def factoryOfDocument? (allowMore : Bool) (document : Document) : Option ManifestFactory := do
  let keys := ["package", "target_class_name", "target_package", "types"]
  match ← document.settings allowMore keys with
  | [package, className, targetPackage, types] =>
      return {
        package := ← withDefault none asText? package
        targetClassName := ← withDefault "MoshiFactory" asText className
        targetPackage := ← withDefault none asText? targetPackage
        types := ← required (asList asText) types }
  | _ => none

/-- The manifest that a document gives. -/
def ofDocument? (allowMore : Bool) (document : Document) : Option Manifest := do
  match ← document.settings allowMore ["generator", "class", "factory"] with
  | [generator, classes, factories] =>
      return {
        config := ← withDefault {} (Config.ofDocument? allowMore) generator
        classes := ← withDefault [] (asList (classOfDocument? allowMore)) classes
        factories := ← withDefault [] (asList (factoryOfDocument? allowMore)) factories }
  | _ => none

/-- The manifest of a TOML text. -/
def ofToml? (text : String) : Option Manifest :=
  (Document.Toml.read? text).bind (ofDocument? true)

end AdapterGen.Manifest
