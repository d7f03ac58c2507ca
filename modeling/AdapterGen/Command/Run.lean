import AdapterGen.Command.Load
import AdapterGen.Command.Report
import AdapterGen.Round.Logged

/-!
# Running a command

A command as a function on file trees: what it prints, whether it fails, the
files afterwards and its log.
-/

namespace AdapterGen.Command

open Code

/-- The failure that a report amounts to, if any target or registration failed. -/
def failureOf (report : RoundReport) : Option CommandError :=
  if report.isSuccess then none else some (.generationFailed report.failures.length)

/-- The files of a dry run, each under its path. -/
def preview (indent : String) (files : List SourceFile) : String :=
  String.join (files.map fun file =>
    "// " ++ file.relativePath ++ "\n" ++ file.render indent ++ "\n")

/-- Runs a round over a model in memory. -/
def rehearse (model : Model) (traced : Bool) : Logged MemoryStore × RoundReport :=
  Round.runLogged model.config traced MemoryStore.loggedSink {} model.targets model.registrations

/-- Shows the files that a model gives. -/
def dryRun (tree : FileTree) (model : Model) (traced : Bool) : Outcome :=
  let (result, report) := rehearse model traced
  { text := preview model.config.indent result.state.files ++ report.summary
    phases := if traced then Phase.all else []
    failure := failureOf report
    tree := tree
    log := result.log }

/-- Writes the files that a model gives below a directory, which is made first. -/
def writeTo (tree : FileTree) (model : Model) (output : String) (traced : Bool) : Outcome :=
  match tree.makePath output with
  | .error _ => { failure := some (.outputNotMade output), tree := tree }
  | .ok ready =>
      let (result, report) :=
        Round.runLogged model.config traced
          (DirectoryStore.loggedSink output model.config.indent) { tree := ready } model.targets
          model.registrations
      { text :=
          "Wrote " ++ toString result.state.written.length ++ " file(s) to " ++ output ++ "\n" ++
            report.summary
        phases := if traced then Phase.all else []
        failure := failureOf report
        tree := result.state.tree
        log := result.log }

/-- Reports on a model without writing anything. -/
def checkModel (tree : FileTree) (model : Model) : Outcome :=
  let (result, report) := rehearse model false
  let praise :=
    if report.isSuccess then
      "\n✓ All " ++ toString report.adapterCount ++ " type(s) generate cleanly\n"
    else ""
  { text := report.summary ++ praise
    failure := failureOf report
    tree := tree
    log := result.log }

/-- Shows the plans of a model; what cannot be generated is shown, and is no failure. -/
def inspectModel (tree : FileTree) (model : Model) : Outcome :=
  let (result, report) := rehearse model false
  { text := report.inspection
    tree := tree
    log := result.log }

/-- What a command does with its model. -/
def runOn (tree : FileTree) (model : Model) : Command → Outcome
  | generate _ ⟨output, isDryRun, traced⟩ =>
      if isDryRun then dryRun tree model traced
      else
        match output with
        | none => { failure := some .noOutput, tree := tree }
        | some output => writeTo tree model output traced
  | check _ => checkModel tree model
  | inspect _ => inspectModel tree model

/-- Loads the model of a command and runs the command on it. -/
def run (tree : FileTree) (command : Command) : Outcome :=
  let events := command.input.loadEvents
  match command.input.load tree with
  | .error cause => { failure := some cause, tree := tree, log := events }
  | .ok model =>
      let outcome := command.runOn tree model
      { outcome with log := events ++ outcome.log }

end AdapterGen.Command
