import AdapterGen.FilePath
import AdapterGen.GenerateError

/-!
# File trees

Files and directories by the steps that lead to them from the working
directory, which is always there. Lookups see the last entry made for a path.
-/

namespace AdapterGen

/-- What stands at a path. -/
inductive FileNode where
  | directory
  | file (content : String)
  deriving DecidableEq, Repr

/-- The entries of a tree, the latest first. -/
structure FileTree where
  entries : List (List String × FileNode) := []
  deriving DecidableEq, Repr

namespace FileTree

/-- What stands at a path. -/
def get? (tree : FileTree) (path : List String) : Option FileNode :=
  if path = [] then some .directory else tree.entries.lookup path

/-- The tree with something at a path. -/
def put (tree : FileTree) (path : List String) (node : FileNode) : FileTree :=
  ⟨(path, node) :: tree.entries.filter (·.1 ≠ path)⟩

/-- The tree with nothing at a path. -/
def erase (tree : FileTree) (path : List String) : FileTree :=
  ⟨tree.entries.filter (·.1 ≠ path)⟩

/-- Whether a directory stands at a path. -/
def isDirectory (tree : FileTree) (path : List String) : Bool :=
  tree.get? path == some .directory

/-- The content of the file at a path. -/
def content? (tree : FileTree) (path : List String) : Option String :=
  match tree.get? path with
  | some (.file content) => some content
  | _ => none

/-- Whether a file stands at a path. -/
def isFile (tree : FileTree) (path : List String) : Bool := (tree.content? path).isSome

/-- Puts a directory at a path where there is nothing. -/
def addDirectory (tree : FileTree) (path : List String) : FileTree :=
  if (tree.get? path).isSome then tree else tree.put path .directory

/-- Makes the directories of a way down, of which the last is the one asked for. -/
def makeDirectories (tree : FileTree) (way : List (List String)) : Except WriteError FileTree :=
  if way.dropLast.any tree.isFile then .error .notDirectory
  else if way.any tree.isFile then .error .fileExists
  else .ok (way.foldl addDirectory tree)

/-- Writes a file whose directory exists. -/
def write (tree : FileTree) (path : List String) (content : String) : Except WriteError FileTree :=
  if tree.isDirectory path then .error .isDirectory
  else if tree.isFile path.dropLast then .error .notDirectory
  else if !tree.isDirectory path.dropLast then .error .notFound
  else .ok (tree.put path (.file content))

/-- Removes a file; anything else stays. -/
def remove (tree : FileTree) (path : List String) : FileTree :=
  if tree.isFile path then tree.erase path else tree

/-- The content of the file that a path's text leads to, through directories alone. -/
def read? (tree : FileTree) (path : String) : Option String :=
  if FilePath.namesDirectory path || !(FilePath.passed path).all tree.isDirectory then none
  else tree.content? (FilePath.resolve path)

/-- Makes the directory that a path's text leads to and those on the way. -/
def makePath (tree : FileTree) (path : String) : Except WriteError FileTree :=
  tree.makeDirectories (FilePath.passed path ++ [FilePath.resolve path])

/-- Puts files and directories where the texts of their paths lead, with the directories on the
way. -/
def ofEntries (entries : List (String × FileNode)) : FileTree :=
  entries.foldl
    (fun tree (path, node) =>
      ((FilePath.passed path).foldl addDirectory tree).put (FilePath.resolve path) node)
    {}

/-- Whether a place lies below the working directory. -/
def isBelow : List String → Bool
  | "/" :: _ | ".." :: _ => false
  | _ => true

/-- The files below the working directory, each with the text of its path. -/
def files (tree : FileTree) : List (String × String) :=
  tree.entries.filterMap fun (path, node) =>
    match node with
    | .file content => if isBelow path then some (Text.join "/" path, content) else none
    | .directory => none

end FileTree

end AdapterGen
