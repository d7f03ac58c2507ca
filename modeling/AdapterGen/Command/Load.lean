import AdapterGen.Command
import AdapterGen.Manifest.Settings

/-!
# Loading a model

The model that the options of a command name. A manifest wins over a source,
and a configuration belongs to a source.
-/

namespace AdapterGen.ModelOptions

open Source (orError)

/-- The model of a manifest. -/
def loadManifest (tree : FileTree) (package : Option String) (path : String) :
    Except CommandError Model := do
  let text ← orError (.unreadableManifest path) (tree.read? path)
  let manifest ← orError .malformedManifest (Manifest.ofToml? text)
  match manifest.validate with
  | .error cause => .error (.invalidManifest path cause)
  | .ok _ =>
      match manifest.toModel package with
      | .error cause => .error (.untranslatable cause)
      | .ok model => .ok model

/-- The configuration at a path, or the default one without a path. -/
def loadConfig (tree : FileTree) : Option String → Except CommandError Config
  | none => .ok {}
  | some path => do
      let text ← orError (.unreadableConfig path) (tree.read? path)
      orError (.malformedConfig path) (Config.ofJson? text)

/-- The model of a source. -/
def loadSource (tree : FileTree) (package config : Option String) (path : String) :
    Except CommandError Model := do
  let config ← loadConfig tree config
  let text ← orError (.unreadableSource path) (tree.read? path)
  match Source.scan package config.nullableMarker? text with
  | .error cause => .error (.unscannable path cause)
  | .ok (targets, registrations) => .ok ⟨config, targets, registrations⟩

/-- The model that the options name. -/
def load (tree : FileTree) (options : ModelOptions) : Except CommandError Model :=
  match options.model, options.source with
  | some path, _ => loadManifest tree options.package path
  | none, some path => loadSource tree options.package options.config path
  | none, none => .error .noInput

/-- What loading logs. -/
def loadEvents (options : ModelOptions) : List LogEvent :=
  if options.model.isSome && options.config.isSome then [.configIgnored] else []

end AdapterGen.ModelOptions
