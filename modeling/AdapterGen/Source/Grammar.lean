import AdapterGen.Source.Expression
import AdapterGen.Source.Parse
import AdapterGen.Source.Syntax

/-!
# The grammar

What the parsers of the recursive parts of the grammar give. They call each
other through one record, in which each level can only call the level below.
-/

namespace AdapterGen.Source

/-! ### Paths and types -/

/-- What follows a name in a path. -/
inductive Arguments where
  | none
  /-- Arguments in angle brackets; only the types among them matter. -/
  | angled (types : List FieldType)

/-- A part of a path. -/
structure Segment where
  name : String
  arguments : Arguments := .none

namespace Segment

/-- Whether a part is a name alone. -/
def isPlain (segment : Segment) : Bool :=
  match segment.arguments with
  | .none => true
  | _ => false

/-- The type arguments of a part. -/
def types (segment : Segment) : List FieldType :=
  match segment.arguments with
  | .angled types => types
  | _ => []

end Segment

/-- A path: whether it begins in a type and whether it is rooted, the parts before the last one,
and the last one. -/
structure Path where
  qualified : Bool := false
  rooted : Bool := false
  before : List Segment := []
  last : Segment

namespace Path

/-- A path with one more part. -/
def push (path : Path) (segment : Segment) : Path :=
  { path with before := path.before ++ [path.last], last := segment }

/-- Whether all parts are names alone. -/
def isPlain (path : Path) : Bool := path.before.all (·.isPlain) && path.last.isPlain

/-- Whether a path is a single part that is not rooted. -/
def isSingle (path : Path) : Bool :=
  !path.qualified && !path.rooted && path.before.isEmpty

/-- The names of all parts. -/
def names (path : Path) : List String := path.before.map (·.name) ++ [path.last.name]

end Path

/-- The form of a type. What may follow a type hangs on it. -/
inductive TypeForm where
  | path (path : Path)
  | borrowedText
  | array (element : FieldType)
  | parenthesized (inner : FieldType)
  /-- Bounds without a keyword: whether there is just one, and whether it is in parentheses. -/
  | bounds (single enclosed : Bool)
  | other

/-- A type with its form. Arguments could be added to the end of an extensible one. -/
structure ParsedType where
  form : TypeForm
  type : FieldType
  extensible : Bool

/-- The type of a form that is printed in a given way. -/
def TypeForm.type (printed : String) : TypeForm → FieldType
  | .path p => .path (p.before.map (·.name)) p.last.name p.last.types
  | .borrowedText => .borrowedText
  | .array element => .array element
  | .parenthesized inner => .parenthesized inner
  | .bounds _ _ | .other => .unsupported printed

/-- The form of a bound. -/
inductive BoundForm where
  | trait
  /-- A trait that holds at compile time. -/
  | constTrait
  | lifetime
  /-- The list of the parameters that a type captures. -/
  | captures
  deriving DecidableEq

/-- A bound; arguments could be added to the end of an extensible one. -/
structure Bound where
  form : BoundForm
  extensible : Bool := false

/-! ### Patterns -/

/-- The form of a pattern. -/
inductive PatternForm where
  /-- A range without a start or an end. -/
  | openRange
  /-- A constant in braces, as it is printed without the attributes inside. -/
  | constant (bare : List Lexeme)
  /-- A pattern of another grammar, which is printed as it stands. -/
  | asWritten
  | other

/-! ### The record -/

/-- The parsers that the parts of the grammar call each other by. Those that give an expression
print nothing, since that depends on what follows. -/
structure Grammar where
  /-- One bound of a type. -/
  bound : Parse Bound
  /-- A type; bounds may be added to it only where that is allowed. -/
  type : (allowPlus : Bool) → Parse ParsedType
  pattern : Parse PatternForm
  /-- An expression; where a block is to follow it holds no record in braces. -/
  expr : (allowRecord : Bool) → Parse Expression
  /-- An operand with the operators in front of it. -/
  operand : (allowRecord : Bool) → Parse Expression
  /-- What follows an operand, as far as it binds tightly enough. -/
  operators : (allowRecord : Bool) → (least : Precedence) → Expression → Parse Expression
  /-- An expression at the beginning of a statement or an arm: a block ends it. -/
  leadingExpr : Parse Expression
  /-- All statements that are left. -/
  statements : Parse Unit
  /-- An item after its attributes, which begin at a cursor. -/
  item : (start : Cursor) → List Attribute → Parse Item

namespace Grammar

/-- The grammar that accepts nothing. -/
def empty : Grammar where
  bound := failure
  type _ := failure
  pattern := failure
  expr _ := failure
  operand _ := failure
  operators _ _ _ := failure
  leadingExpr := failure
  statements := failure
  item _ _ := failure

/-- An expression between separators. -/
def value (g : Grammar) : Parse Unit := do
  let e ← g.expr true
  Parse.emit e.printed

/-- What is tested before a block. -/
def condition (g : Grammar) : Parse Unit := do
  let e ← g.expr false
  Parse.emit e.printed

end Grammar

end AdapterGen.Source
