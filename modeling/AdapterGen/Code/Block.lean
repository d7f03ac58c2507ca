import AdapterGen.Text.Segments

/-!
# Code blocks

Lines of code with their nesting depth. A block is built step by step at a
current depth, which never falls below zero.
-/

namespace AdapterGen.Code

/-- A line and its depth within the block. -/
structure Line where
  depth : Nat
  text : String
  deriving DecidableEq, Repr

/-- The lines written so far, and the depth of the next one. -/
structure Block where
  lines : List Line := []
  depth : Nat := 0
  deriving DecidableEq, Repr

/-- A step in writing a block. -/
inductive Step where
  /-- A line as it stands. -/
  | line (text : String)
  /-- A line that ends in a semicolon. -/
  | statement (text : String)
  /-- Opens a braced flow; an empty header opens a bare one. -/
  | beginFlow (header : String)
  /-- Closes a flow and opens the next on the same line. -/
  | nextFlow (header : String)
  | endFlow
  | indent
  | unindent
  /-- Writes another block, which starts at depth 0, at the current depth. -/
  | splice (steps : List Step)

namespace Block

/-- Adds a line at the current depth. -/
def addLine (block : Block) (text : String) : Block :=
  { block with lines := block.lines ++ [⟨block.depth, text⟩] }

/-- Adds the lines of another block below the current depth. -/
def append (block other : Block) : Block :=
  { block with
    lines := block.lines ++ other.lines.map fun l => ⟨block.depth + l.depth, l.text⟩ }

/-- The line that opens a flow. -/
def openingText (header : String) : String :=
  if header = "" then "\x7b" else header ++ " \x7b"

mutual

/-- The block after one more step. -/
def apply (block : Block) : Step → Block
  | .line text => block.addLine text
  | .statement text => block.addLine (text ++ ";")
  | .beginFlow header =>
      let opened := block.addLine (openingText header)
      { opened with depth := opened.depth + 1 }
  | .nextFlow header =>
      let closed := { block with depth := block.depth - 1 }
      let opened := closed.addLine ("\x7d " ++ header ++ " \x7b")
      { opened with depth := opened.depth + 1 }
  | .endFlow => addLine { block with depth := block.depth - 1 } "\x7d"
  | .indent => { block with depth := block.depth + 1 }
  | .unindent => { block with depth := block.depth - 1 }
  | .splice steps => block.append (applyAll {} steps)

/-- The block after more steps. -/
def applyAll (block : Block) : List Step → Block
  | [] => block
  | step :: steps => applyAll (apply block step) steps

end

/-- The block that steps write. -/
def ofSteps (steps : List Step) : Block := applyAll {} steps

/-- Whether nothing was written. -/
def isEmpty (block : Block) : Bool := block.lines.isEmpty

/-- Whether some line has a text. -/
def hasLine (block : Block) (text : String) : Bool := block.lines.any (·.text == text)

/-- The index of the first line that has a text. -/
def position? (block : Block) (text : String) : Option Nat :=
  block.lines.findIdx? (·.text == text)

/-- The lines whose text begins with another. -/
def linesStartingWith (block : Block) (start : String) : List Line :=
  block.lines.filter fun l => start.toList.isPrefixOf l.text.toList

/-- A line as it is printed below a base depth. -/
def renderLine (indent : String) (base : Nat) (l : Line) : String :=
  Text.repeated (base + l.depth) indent ++ l.text ++ "\n"

/-- The printed lines, below a base depth. -/
def render (block : Block) (indent : String) (base : Nat) : String :=
  Text.concat (block.lines.map (renderLine indent base))

theorem applyAll_append (block : Block) (xs ys : List Step) :
    block.applyAll (xs ++ ys) = (block.applyAll xs).applyAll ys := by
  induction xs generalizing block with
  | nil => rfl
  | cons x xs ih => simp only [List.cons_append, applyAll, ih]

end Block

/-- Steps in a braced flow. -/
def flow (header : String) (body : List Step) : List Step :=
  .beginFlow header :: body ++ [.endFlow]

/-- Steps one level deeper, without braces. -/
def indented (body : List Step) : List Step := .indent :: body ++ [.unindent]

end AdapterGen.Code
