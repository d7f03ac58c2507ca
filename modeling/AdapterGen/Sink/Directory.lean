import AdapterGen.FileTree
import AdapterGen.Sink

/-!
# The directory sink

Writes each file below a root directory of a file tree, making directories as
needed, and keeps the paths written.
-/

namespace AdapterGen

open Code

/-- A file tree, and the paths written to it and not discarded, in order. -/
structure DirectoryStore where
  tree : FileTree := {}
  written : List String := []
  deriving DecidableEq, Repr

namespace DirectoryStore

/-- The path to which a file is written. -/
def pathOf (root : String) (file : SourceFile) : String := FilePath.push root file.relativePath

/-- The path from which a class is discarded. -/
def discardPath (root package name : String) : String :=
  FilePath.push (FilePath.push root (FilePath.ofPackage package)) (name ++ ".java")

/-- The tree with a text written to a path, whose directories are made first. -/
def writeFile (tree : FileTree) (path content : String) : Except WriteError FileTree := do
  let ready ← tree.makeDirectories (FilePath.passed path)
  ready.write (FilePath.resolve path) content

/-- The sink over file trees that writes below a root with an indentation. -/
def sink (root indent : String) : Sink DirectoryStore where
  persist store file :=
    let path := pathOf root file
    match writeFile store.tree path (file.render indent) with
    | .ok tree => .ok ⟨tree, store.written ++ [path]⟩
    | .error cause => .error (.persistence file.qualifiedName cause)
  discard store package name :=
    let path := discardPath root package name
    ⟨store.tree.remove (FilePath.resolve path), store.written.filter (!FilePath.same · path)⟩

end DirectoryStore

end AdapterGen
