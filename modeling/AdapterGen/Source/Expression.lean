import AdapterGen.Source.Precedence
import AdapterGen.Source.TokenTree

/-!
# Expressions

Expressions by how they are printed and what may follow them. They are printed
with the parentheses that they have, so more are needed only in three places:
around a range after attributes, around a cast to whose type the next operator
would add arguments, and around a label behind attributes after a jump.
-/

namespace AdapterGen.Source

/-- The form of an expression. -/
inductive ExpressionForm where
  | range
  | comparison
  /-- A form that ends in a block and can stand as a statement. -/
  | block
  /-- Something expanded in braces. -/
  | expanded
  /-- An expression of another grammar, which is printed as it stands. -/
  | asWritten
  | other
  deriving DecidableEq, Repr

/-- An expression. -/
structure Expression where
  form : ExpressionForm := .other
  printed : List Lexeme
  /-- How it is printed before what could begin the arguments of a type. -/
  guarded : List Lexeme := printed
  /-- Whether its leftmost operand is of another grammar. -/
  leadsAsWritten : Bool := false
  /-- Whether its leftmost operand has a label. -/
  leadsLabel : Bool := false

namespace Expression

/-- Something in parentheses. -/
def parenthesized (inner : List Lexeme) : List Lexeme :=
  [⟨Delimiter.parenthesis.enclose (spell inner), false⟩]

/-! ### Attributes -/

/-- An operand with attributes in front of it. One of another grammar takes none. -/
def withAttributes (attributes : List Lexeme) (e : Expression) : Expression :=
  if attributes.isEmpty || e.form = .asWritten then e
  else
    let body := if e.form = .range then parenthesized e.printed else e.printed
    { e with printed := attributes ++ body, guarded := attributes ++ body }

/-- A statement with attributes in front of it, which belong to its leftmost operand unless it is a
range. -/
def withStatementAttributes (attributes : List Lexeme) (e : Expression) : Expression :=
  if e.leadsAsWritten && e.form ≠ .range then e else e.withAttributes attributes

/-! ### Composition -/

/-- An expression of another grammar. -/
def asWritten (printed : List Lexeme) : Expression where
  form := .asWritten
  printed := printed
  leadsAsWritten := true

/-- An expression that extends to the end of its last operand. -/
def ending (head : List Lexeme) (operand : Expression) : Expression :=
  { printed := head ++ operand.printed }

/-- An operand with a call, an index, a selection or a propagated failure after it. -/
def followedBy (operand : Expression) (rest : List Lexeme) : Expression :=
  { printed := operand.printed ++ rest, leadsLabel := operand.leadsLabel }

/-- Two operands with an operator between them. -/
def binary (left : Expression) (operator : Operator) (right : Expression) : Expression :=
  let start := (if operator.beginsArguments then left.guarded else left.printed) ++
    [⟨operator.text, false⟩]
  { left with
    form := if operator.precedence = .compare then .comparison else .other
    printed := start ++ right.printed
    guarded := start ++ right.guarded }

/-- A cast to a type; arguments could be added to the end of an extensible one. -/
def cast (operand : Expression) (type : List Lexeme) (extensible : Bool) : Expression :=
  let printed := operand.printed ++ ⟨"as", false⟩ :: type
  { operand with
    form := .other
    printed := printed
    guarded := if extensible then parenthesized printed else printed }

/-- A range with its mark. -/
def range (start : Option Expression) (mark : Lexeme) (stop : Option Expression) : Expression where
  form := .range
  printed := (start.elim [] (·.printed)) ++ mark :: stop.elim [] (·.printed)
  leadsLabel := start.any (·.leadsLabel)

/-- A jump with its value, given whether the jump names a label. A value that begins with a label
must not be taken for it. -/
def jump (head : List Lexeme) (labelled : Bool) (value : Option Expression) : Expression where
  printed := head ++ value.elim [] fun e =>
    if e.leadsLabel && !labelled then parenthesized e.printed else e.printed

/-! ### Kinds -/

/-- Whether an expression is a range. -/
def isRange (e : Expression) : Bool := e.form = .range

/-- Whether an expression needs no semicolon after it to be a statement. -/
def endsStatement (e : Expression) : Bool := e.form = .block || e.form = .expanded

end Expression

end AdapterGen.Source
