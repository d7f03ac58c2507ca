import AdapterGen.Naming

/-!
# File paths

A path is its text. Pushing a part that begins with a slash starts afresh, and
no slash is added after the empty path or after one that ends in a slash.
-/

namespace AdapterGen.FilePath

/-- Adds a part at the end of a path. -/
def pushChars (base part : List Char) : List Char :=
  if part.head? = some '/' then part
  else if base = [] ∨ base.getLast? = some '/' then base ++ part
  else base ++ '/' :: part

/-- Adds a part at the end of a path. -/
def push (base part : String) : String := String.ofList (pushChars base.toList part.toList)

/-- The directory of a package: its non-empty segments pushed one after another. -/
def ofPackage (package : String) : String :=
  (((Text.splitAt '.' package).filter (· ≠ "")).foldl push "")

/-- The file of a class in a package. -/
def ofClass (package name : String) : String := push (ofPackage package) (name ++ ".java")

/-- The steps of a path, with an absolute path's root as its first step. Empty steps and
inner steps to the same directory do not count. -/
def components (path : String) : List String :=
  let steps := Text.splitAt '/' path
  let root := if path.toList.head? = some '/' then ["/"] else []
  let here := if steps.head? = some "." then ["."] else []
  root ++ here ++ steps.filter fun step => step ≠ "" ∧ step ≠ "."

/-- Whether two texts spell the same path. -/
def same (p q : String) : Bool := components p == components q

/-- The place that one step leads to from another place. No step leads above the root, and a
step up from above the working directory leads further up. -/
def follow (place : List String) (step : String) : List String :=
  if step = "." then place
  else if step = ".." then
    match place.getLast? with
    | none | some ".." => place ++ [".."]
    | some "/" => place
    | some _ => place.dropLast
  else place ++ [step]

/-- Where a path leads: each step up cancels the step before it. -/
def resolve (path : String) : List String := (components path).foldl follow []

/-- The places that a path leads through, before the one it leads to. -/
def passed (path : String) : List (List String) :=
  let steps := components path
  (List.range (steps.length - 1)).map fun n => (steps.take (n + 1)).foldl follow []

/-- Whether a path can only name a directory, as its last step is empty or a dot. -/
def namesDirectory (path : String) : Bool :=
  match (Text.splitAt '/' path).getLast? with
  | some step => step == "" || step == "." || step == ".."
  | none => true

/-- The text of a place. -/
def ofPlace : List String → String
  | "/" :: rest => "/" ++ Text.join "/" rest
  | place => Text.join "/" place

end AdapterGen.FilePath
