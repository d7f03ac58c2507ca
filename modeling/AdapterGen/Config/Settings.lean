import AdapterGen.Config
import AdapterGen.Document.Json

/-!
# Reading a configuration

A configuration from the settings of a document, each of which has a default.
-/

namespace AdapterGen.Config

/-- The keys of the settings, in their order. -/
def settingKeys : List String :=
  ["indent", "nullable_annotations", "adapter_suffix", "factory_suffix", "javadoc"]

/-- The configuration that a document gives. -/
def ofDocument? (allowMore : Bool) (document : Document) : Option Config := do
  match ← document.settings allowMore settingKeys with
  | [indent, nullable, adapter, factory, javadoc] =>
      let default : Config := {}
      return {
        indent := ← Document.withDefault default.indent Document.asText indent
        nullableAnnotations :=
          ← Document.withDefault default.nullableAnnotations (Document.asList Document.asText)
            nullable
        adapterSuffix := ← Document.withDefault default.adapterSuffix Document.asText adapter
        factorySuffix := ← Document.withDefault default.factorySuffix Document.asText factory
        javadoc := ← Document.withDefault default.javadoc Document.asText javadoc }
  | _ => none

/-- The configuration of a JSON text; the empty text gives the default one. -/
def ofJson? (text : String) : Option Config :=
  if text = "" then some {}
  else (Document.Json.read? text).bind (ofDocument? false)

end AdapterGen.Config
