import AdapterGen.FileTree

/-!
# Changes of a file tree

What has to be done to a tree of files to turn it into another one.
-/

namespace AdapterGen.FileTree

/-- A step from one tree to another. -/
inductive Change where
  | removeFile (path : List String)
  | makeDirectory (path : List String)
  | writeFile (path : List String) (content : String)
  deriving DecidableEq, Repr

/-- The steps from one tree to another: files go first, and directories come before the files
in them. -/
def changes (before after : FileTree) : List Change :=
  let gone := before.entries.filterMap fun (path, node) =>
    match node with
    | .file _ => if after.isFile path then none else some (.removeFile path)
    | .directory => none
  let made := after.entries.reverse.filterMap fun (path, node) =>
    match node with
    | .directory => if before.isDirectory path then none else some (.makeDirectory path)
    | .file _ => none
  let written := after.entries.reverse.filterMap fun (path, node) =>
    match node with
    | .file content =>
        if before.content? path = some content then none else some (.writeFile path content)
    | .directory => none
  gone ++ made ++ written

/-- The places in one tree about which another knows nothing. -/
def newPlaces (before after : FileTree) : List (List String) :=
  (after.entries.map (·.1)).filter fun path => (before.get? path).isNone

end AdapterGen.FileTree
