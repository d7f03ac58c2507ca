import AdapterGen.CommandLine.Response
import AdapterGen.FileTree.Change

/-!
# The program

Reads the files that a command line names, answers it on the tree of these
files, and carries over to the real files what changed in the tree.
-/

namespace AdapterGen.Program

open CommandLine

/-- The text files that can be read, with their paths. -/
def readFiles (paths : List String) : IO (List (String × FileNode)) :=
  paths.filterMapM fun (path : String) => do
    try return some (path, .file (← IO.FS.readFile path))
    catch _ => return none

/-- A tree with what really stands at some places. -/
def lookAt (tree : FileTree) (places : List (List String)) : IO FileTree :=
  places.foldlM
    (fun known place => do
      let path := (← IO.currentDir) / FilePath.ofPlace place
      if ← path.isDir then return known.put place .directory
      else if ← path.pathExists then
        let content ← try IO.FS.readFile path catch _ => pure ""
        return known.put place (.file content)
      else return known)
    tree

/-- Carries over a change to the real files. -/
def carryOut : FileTree.Change → IO Unit
  | .removeFile place => IO.FS.removeFile (FilePath.ofPlace place)
  | .makeDirectory place => IO.FS.createDirAll (FilePath.ofPlace place)
  | .writeFile place content => IO.FS.writeFile (FilePath.ofPlace place) content

/-- How many nanoseconds some work takes. -/
@[noinline]
def timed {α : Type} (work : Unit → α) : IO (α × Nat) := do
  let start ← IO.monoNanosNow
  let result ← IO.lazyPure work
  let stop ← IO.monoNanosNow
  return (result, stop - start)

/-- Nanoseconds as milliseconds with three places. -/
def milliseconds (nanoseconds : Nat) : String :=
  let microseconds := (nanoseconds + 500) / 1000
  let fraction := toString (1000 + microseconds % 1000)
  toString (microseconds / 1000) ++ "." ++ String.ofList (fraction.toList.drop 1) ++ "ms"

/-- The time that each phase of a round over a model takes. -/
def phaseTimes (model : Model) : IO (Phase → String) := do
  let sink := MemoryStore.sink []
  let ((middle, _), ofTargets) ← timed fun _ =>
    Round.collect (Round.generateTarget model.config sink) {} model.targets
  let (_, ofRegistrations) ← timed fun _ =>
    Round.collect (Round.generateRegistration model.config model.targets sink) middle
      model.registrations
  return fun
    | .targets => milliseconds ofTargets
    | .registrations => milliseconds ofRegistrations
    | .whole => milliseconds (ofTargets + ofRegistrations)

/-- Answers a command line. -/
def answer (arguments : List String) : IO UInt32 := do
  let invocation := (parse arguments).toOption
  let paths := invocation.elim [] (·.command.inputPaths)
  let given := FileTree.ofEntries (← readFiles paths)
  let sketch := respond given arguments
  let tree ← lookAt given (given.newPlaces sketch.outcome.tree)
  let response := respond tree arguments
  (tree.changes response.outcome.tree).forM carryOut
  let traced :=
    if response.outcome.phases.isEmpty then none
    else invocation.bind fun i => (i.command.input.load tree).toOption
  let times ← phaseTimes (traced.getD {})
  (← IO.getStdout).putStr (response.outcome.stdout times)
  response.diagnostics.forM fun line => IO.eprintln line
  return response.exitCode.toUInt32

end AdapterGen.Program

/-- Answers the command line. -/
def main (arguments : List String) : IO UInt32 := AdapterGen.Program.answer arguments
