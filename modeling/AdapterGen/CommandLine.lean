import AdapterGen.Command.Run

/-!
# The command line

Arguments are read from left to right, and the first that cannot stand ends the
reading. So does the first that asks for help or for the version.
-/

namespace AdapterGen.CommandLine

/-! ### Options -/

/-- An option that takes no value. -/
inductive Flag where
  | help
  | version
  | verbose
  | dryRun
  | tracePerformance
  deriving DecidableEq, Repr

/-- An option that takes a value. -/
inductive ValueOption where
  | model
  | source
  | package
  | config
  | output
  deriving DecidableEq, Repr

/-- An option. -/
inductive Opt where
  | flag (flag : Flag)
  | value (option : ValueOption)
  deriving DecidableEq, Repr

/-- Where an option may stand: before the command's name, or after the name of a command. -/
inductive Place where
  | start
  | generate
  | check
  | inspect
  deriving DecidableEq, Repr

/-- The place after a command's name. -/
def Place.ofCommandName? : String → Option Place
  | "generate" => some generate
  | "check" => some check
  | "inspect" => some inspect
  | _ => none

/-- Whether an option may stand at a place. -/
def Opt.allowed : Opt → Place → Bool
  | flag .help, _ | flag .verbose, _ => true
  | flag .version, place => place == .start
  | flag .dryRun, place | flag .tracePerformance, place | value .output, place =>
      place == .generate
  | value _, place => place != .start

/-- The option of a long name. -/
def Opt.ofLongName? : String → Option Opt
  | "help" => some (flag .help)
  | "version" => some (flag .version)
  | "verbose" => some (flag .verbose)
  | "dry-run" => some (flag .dryRun)
  | "trace-performance" => some (flag .tracePerformance)
  | "model" => some (value .model)
  | "source" => some (value .source)
  | "package" => some (value .package)
  | "config" => some (value .config)
  | "output" => some (value .output)
  | _ => none

/-- The option of a letter. -/
def Opt.ofLetter? : Char → Option Opt
  | 'h' => some (flag .help)
  | 'V' => some (flag .version)
  | 'v' => some (flag .verbose)
  | 'm' => some (value .model)
  | 's' => some (value .source)
  | 'p' => some (value .package)
  | 'o' => some (value .output)
  | _ => none

/-! ### Reading -/

/-- What is wrong with a command line. -/
inductive UsageError where
  | unexpected (argument : String)
  | unknownCommand (name : String)
  | valueGiven (argument : String)
  | valueMissing (option : ValueOption)
  | valueEmpty (option : ValueOption)
  | repeated (argument : Opt)
  | noCommand
  | notOneInput
  | noOutput
  deriving DecidableEq, Repr

/-- Why the reading of a command line ends without a command. -/
inductive Stop where
  | help
  | version
  | misuse (cause : UsageError)
  deriving DecidableEq, Repr

/-- The options read so far. -/
structure Choices where
  verbose : Bool := false
  dryRun : Bool := false
  tracePerformance : Bool := false
  model : Option String := none
  source : Option String := none
  package : Option String := none
  config : Option String := none
  output : Option String := none
  deriving DecidableEq, Repr

namespace Choices

/-- Takes in a flag; only the one for verbosity may be repeated. -/
def raise (choices : Choices) : Flag → Except Stop Choices
  | .help => .error .help
  | .version => .error .version
  | .verbose => .ok { choices with verbose := true }
  | .dryRun =>
      if choices.dryRun then .error (.misuse (.repeated (.flag .dryRun)))
      else .ok { choices with dryRun := true }
  | .tracePerformance =>
      if choices.tracePerformance then .error (.misuse (.repeated (.flag .tracePerformance)))
      else .ok { choices with tracePerformance := true }

/-- The value of an option. -/
def value? (choices : Choices) : ValueOption → Option String
  | .model => choices.model
  | .source => choices.source
  | .package => choices.package
  | .config => choices.config
  | .output => choices.output

/-- Takes in the value of an option, which may not have one yet. Only a package may be empty. -/
def assign (choices : Choices) (option : ValueOption) (value : String) : Except Stop Choices :=
  if (choices.value? option).isSome then .error (.misuse (.repeated (.value option)))
  else if value = "" && option ≠ .package then .error (.misuse (.valueEmpty option))
  else
    match option with
    | .model => .ok { choices with model := some value }
    | .source => .ok { choices with source := some value }
    | .package => .ok { choices with package := some value }
    | .config => .ok { choices with config := some value }
    | .output => .ok { choices with output := some value }

/-- The options that name the model. -/
def input (choices : Choices) : ModelOptions :=
  ⟨choices.model, choices.source, choices.package, choices.config⟩

end Choices

/-- What an argument leaves: the options read, and the one that waits for the next argument. -/
abbrev Progress := Choices × Option ValueOption

/-- Reads an option by its long name, with the value behind an equals sign if there is one. -/
def readLong (place : Place) (choices : Choices) (argument name : String)
    (attached : Option String) : Except Stop Progress :=
  match (Opt.ofLongName? name).filter (·.allowed place), attached with
  | none, _ => .error (.misuse (.unexpected argument))
  | some (.flag flag), none => (choices.raise flag).map (·, none)
  | some (.flag _), some _ => .error (.misuse (.valueGiven argument))
  | some (.value option), some value => (choices.assign option value).map (·, none)
  | some (.value option), none => .ok (choices, some option)

/-- Reads a cluster of letters. A letter whose option takes a value takes the rest of the
cluster, without an equals sign in front; an empty rest leaves it waiting. -/
def readLetters (place : Place) (argument : String) (choices : Choices) :
    List Char → Except Stop Progress
  | [] => .ok (choices, none)
  | letter :: rest =>
      match (Opt.ofLetter? letter).filter (·.allowed place) with
      | none => .error (.misuse (.unexpected argument))
      | some (.flag flag) => do readLetters place argument (← choices.raise flag) rest
      | some (.value option) =>
          match rest with
          | [] => .ok (choices, some option)
          | '=' :: value => (choices.assign option (String.ofList value)).map (·, none)
          | value => (choices.assign option (String.ofList value)).map (·, none)

/-- Whether an argument is read as options: it begins with a dash and is more than that. -/
def isOptionLike (argument : String) : Bool :=
  match argument.toList with
  | '-' :: _ :: _ => true
  | _ => false

/-- Reads an argument that begins with a dash. -/
def readOption (place : Place) (choices : Choices) (argument : String) : Except Stop Progress :=
  match argument.toList with
  | '-' :: '-' :: rest =>
      let name := String.ofList (rest.takeWhile (· ≠ '='))
      match rest.dropWhile (· ≠ '=') with
      | [] => readLong place choices argument name none
      | _ :: value => readLong place choices argument name (some (String.ofList value))
  | '-' :: letters => readLetters place argument choices letters
  | _ => .error (.misuse (.unexpected argument))

/-- Reads the arguments after a command's name. All are options and their values, up to two
dashes, after which nothing may stand. -/
def readArguments (place : Place) (choices : Choices) : List String → Except Stop Choices
  | [] => .ok choices
  | "--" :: [] => .ok choices
  | "--" :: argument :: _ => .error (.misuse (.unexpected argument))
  | argument :: rest => do
      if !isOptionLike argument then .error (.misuse (.unexpected argument))
      else
        match ← readOption place choices argument, rest with
        | (next, none), rest => readArguments place next rest
        | (_, some option), [] => .error (.misuse (.valueMissing option))
        | (next, some option), value :: rest =>
            if isOptionLike value then .error (.misuse (.valueMissing option))
            else readArguments place (← next.assign option value) rest

/-- The command of a name with its options: one input, and an output unless nothing is written. -/
def commandOf (place : Place) (choices : Choices) : Except Stop Command :=
  if choices.model.isSome == choices.source.isSome then .error (.misuse .notOneInput)
  else
    match place with
    | .start => .error (.misuse .noCommand)
    | .generate =>
        if choices.output.isNone && !choices.dryRun then .error (.misuse .noOutput)
        else
          .ok (.generate choices.input
            ⟨choices.output, choices.dryRun, choices.tracePerformance⟩)
    | .check => .ok (.check choices.input)
    | .inspect => .ok (.inspect choices.input)

/-- What a request for help about a command, or about the program, ends in. -/
def helpAbout : List String → Stop
  | [] => .help
  | name :: rest =>
      if name ≠ "help" && (Place.ofCommandName? name).isNone then .misuse (.unknownCommand name)
      else
        match rest with
        | [] => .help
        | extra :: _ => .misuse (.unknownCommand extra)

/-- A command, and whether details are to be logged. -/
structure Invocation where
  verbose : Bool
  command : Command
  deriving DecidableEq, Repr

/-- Reads the arguments from the start, where only a command's name and options that suit every
command may stand. -/
def readStart (choices : Choices) : List String → Except Stop Invocation
  | [] => .error (.misuse .noCommand)
  | argument :: rest =>
      if argument = "--" then .error (.misuse (rest.head?.elim .noCommand .unexpected))
      else if argument = "help" then .error (helpAbout rest)
      else if isOptionLike argument then
        match readOption .start choices argument with
        | .error stop => .error stop
        | .ok (next, _) => readStart next rest
      else
        match Place.ofCommandName? argument with
        | none => .error (.misuse (.unknownCommand argument))
        | some place => do
            let choices ← readArguments place choices rest
            return ⟨choices.verbose, ← commandOf place choices⟩

/-- Reads a command line. -/
def parse (arguments : List String) : Except Stop Invocation := readStart {} arguments

end AdapterGen.CommandLine
