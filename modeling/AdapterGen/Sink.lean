import AdapterGen.Code.SourceFile
import AdapterGen.GenerateError

/-!
# Sinks

Where generated files go. Several files are persisted all or none: after a
failure those of the call that were persisted are discarded, the last first.
-/

namespace AdapterGen

open Code

/-- A destination with states of some type. A file that cannot be persisted leaves the state
as it was. -/
structure Sink (σ : Type) where
  persist : σ → SourceFile → Except GenerateError σ
  discard : σ → (package name : String) → σ

namespace Sink

/-- Discards files in order. -/
def discardAll {σ : Type} (sink : Sink σ) (state : σ) (files : List SourceFile) : σ :=
  files.foldl (fun s file => sink.discard s file.package file.decl.name) state

/-- Persists files after others of the same call, the last of which comes first. -/
def persistAfter {σ : Type} (sink : Sink σ) (persisted : List SourceFile) (state : σ) :
    List SourceFile → σ × Option GenerateError
  | [] => (state, none)
  | file :: rest =>
      match sink.persist state file with
      | .ok next => sink.persistAfter (file :: persisted) next rest
      | .error error => (sink.discardAll state persisted, some error)

/-- Persists all files or none: the state after the call, and the failure if there is one. -/
def persistAll {σ : Type} (sink : Sink σ) (state : σ) (files : List SourceFile) :
    σ × Option GenerateError :=
  sink.persistAfter [] state files

end Sink

end AdapterGen
