import AdapterGen.FileTree
import AdapterGen.Log
import AdapterGen.Manifest
import AdapterGen.Source.Scan
import AdapterGen.Text.Quoted

/-!
# Commands

What the program can be asked to do, why it may fail to, and what comes of it.
-/

namespace AdapterGen

/-- Where the model of a command comes from. -/
structure ModelOptions where
  /-- The path of a manifest. -/
  model : Option String := none
  /-- The path of a source. -/
  source : Option String := none
  /-- The package of what has no other. -/
  package : Option String := none
  /-- The path of a configuration, for a source. -/
  config : Option String := none
  deriving DecidableEq, Repr

/-- Where generated files go, and what is shown of the round. -/
structure GenerateOptions where
  output : Option String := none
  dryRun : Bool := false
  tracePerformance : Bool := false
  deriving DecidableEq, Repr

/-- What the program can be asked to do. -/
inductive Command where
  /-- Write the generated files, or only show them. -/
  | generate (input : ModelOptions) (options : GenerateOptions)
  /-- Report what generation would say. -/
  | check (input : ModelOptions)
  /-- Show how every target would be decoded. -/
  | inspect (input : ModelOptions)
  deriving DecidableEq, Repr

/-- The model options of a command. -/
def Command.input : Command → ModelOptions
  | generate input _ | check input | inspect input => input

/-- The paths of the files that a command reads. -/
def Command.inputPaths (command : Command) : List String :=
  [command.input.model, command.input.source, command.input.config].filterMap id

/-- Why a command fails. -/
inductive CommandError where
  | noInput
  | unreadableManifest (path : String)
  | malformedManifest
  | invalidManifest (path : String) (cause : ManifestError)
  | untranslatable (cause : ModelError)
  | unreadableConfig (path : String)
  | malformedConfig (path : String)
  | unreadableSource (path : String)
  | unscannable (path : String) (cause : Source.ScanError)
  | noOutput
  | outputNotMade (path : String)
  | generationFailed (count : Nat)
  deriving DecidableEq, Repr

/-- The wordings of an error, from the outermost to the innermost. -/
def CommandError.chain : CommandError → List String
  | noInput => ["Either --model or --source is required"]
  | unreadableManifest path => ["Failed to read manifest: " ++ Text.quoted path]
  | malformedManifest => ["Failed to parse manifest"]
  | invalidManifest path cause => ["Invalid manifest: " ++ Text.quoted path, cause.message]
  | untranslatable cause => cause.chain
  | unreadableConfig path => ["Failed to read config: " ++ Text.quoted path]
  | malformedConfig path => ["Failed to parse config: " ++ Text.quoted path]
  | unreadableSource path => ["Failed to read " ++ Text.quoted path]
  | unscannable path cause => ("Failed to scan " ++ Text.quoted path) :: cause.chain
  | noOutput => ["--output is required unless --dry-run is given"]
  | outputNotMade path => ["Failed to create output directory: " ++ Text.quoted path]
  | generationFailed count => [toString count ++ " type(s) failed to generate"]

/-- What comes of a command. -/
structure Outcome where
  /-- What is printed, up to the times. -/
  text : String := ""
  /-- The phases whose times are printed at the end. -/
  phases : List Phase := []
  failure : Option CommandError := none
  /-- The files afterwards. -/
  tree : FileTree
  log : List LogEvent := []

/-- Everything that is printed, given the time of each phase. -/
def Outcome.stdout (outcome : Outcome) (elapsed : Phase → String) : String :=
  outcome.text ++ String.join (outcome.phases.map fun phase =>
    "==PERFORMANCE== " ++ phase.name ++ ": " ++ elapsed phase ++ "\n")

end AdapterGen
