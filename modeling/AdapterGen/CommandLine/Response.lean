import AdapterGen.CommandLine

/-!
# Responses

What the program answers to a command line, as a function on file trees.
-/

namespace AdapterGen.CommandLine

/-- The spelling of an option in messages. -/
def Opt.spelling : Opt → String
  | flag .help => "--help"
  | flag .version => "--version"
  | flag .verbose => "--verbose"
  | flag .dryRun => "--dry-run"
  | flag .tracePerformance => "--trace-performance"
  | value .model => "--model"
  | value .source => "--source"
  | value .package => "--package"
  | value .config => "--config"
  | value .output => "--output"

/-- The wording of a usage error. -/
def UsageError.message : UsageError → String
  | unexpected argument => "unexpected argument '" ++ argument ++ "'"
  | unknownCommand name => "unknown command '" ++ name ++ "'"
  | valueGiven argument => "the option in '" ++ argument ++ "' takes no value"
  | valueMissing option => "a value is required for '" ++ (Opt.value option).spelling ++ "'"
  | valueEmpty option => "the value of '" ++ (Opt.value option).spelling ++ "' is empty"
  | repeated argument => "'" ++ argument.spelling ++ "' is given more than once"
  | noCommand => "a command is required"
  | notOneInput => "exactly one of '--model' and '--source' is required"
  | noOutput => "'--output' is required unless '--dry-run' is given"

/-- The name and version of the program. -/
def versionText : String := "moshigen 0.1.0\n"

/-- How the program is used. -/
def helpText : String :=
  Text.join "\n"
    ["Generate Moshi JSON adapters for Java data classes",
      "",
      "Usage: moshigen [-v] <COMMAND> (-m <MODEL> | -s <SOURCE>) [OPTIONS]",
      "",
      "Commands:",
      "  generate  Generate adapters and factories",
      "  check     Run generation in memory and report failures and warnings",
      "  inspect   Print the decode plan of every target type",
      "  help      Print this text",
      "",
      "Options:",
      "  -m, --model <MODEL>        Path to a model manifest",
      "  -s, --source <SOURCE>      Path to a source file with marked structs",
      "  -p, --package <PACKAGE>    Default Java package for types without one",
      "      --config <CONFIG>      Generator configuration for a source",
      "  -o, --output <OUTPUT>      Output directory (generate)",
      "      --dry-run              Print generated sources instead (generate)",
      "      --trace-performance    Report the time of each phase (generate)",
      "  -v, --verbose              Log details",
      "  -h, --help                 Print this text",
      "  -V, --version              Print the version",
      ""]

/-- What the program answers. -/
structure Response where
  exitCode : Nat := 0
  outcome : Outcome
  /-- What is said about the use of the program. -/
  notices : List String := []

/-- The answer to a command line. -/
def respond (tree : FileTree) (arguments : List String) : Response :=
  match parse arguments with
  | .error .help => { outcome := { text := helpText, tree := tree } }
  | .error .version => { outcome := { text := versionText, tree := tree } }
  | .error (.misuse cause) =>
      { exitCode := 2
        outcome := { tree := tree }
        notices := ["error: " ++ cause.message, "For more information, try '--help'."] }
  | .ok invocation =>
      let outcome := invocation.command.run tree
      { exitCode := if outcome.failure.isSome then 1 else 0
        outcome :=
          { outcome with log := outcome.log.filter (·.isShown invocation.verbose) } }

/-- The lines about a failure: its outermost wording, then what caused it. -/
def failureLines (failure : CommandError) : List String :=
  match failure.chain with
  | [] => []
  | [outer] => ["Error: " ++ outer]
  | [outer, cause] => ["Error: " ++ outer, "", "Caused by:", "    " ++ cause]
  | outer :: causes =>
      ["Error: " ++ outer, "", "Caused by:"] ++
        causes.zipIdx.map fun (cause, n) => "    " ++ toString n ++ ": " ++ cause

/-- Everything that is said apart from the answer itself. -/
def Response.diagnostics (response : Response) : List String :=
  response.outcome.log.map (·.line) ++ response.notices ++
    response.outcome.failure.elim [] failureLines

end AdapterGen.CommandLine
