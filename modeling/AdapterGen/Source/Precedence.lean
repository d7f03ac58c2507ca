/-!
# Precedence

How tightly the operators of expressions bind.
-/

namespace AdapterGen.Source

/-- How tightly operators bind, from the loosest. -/
inductive Precedence where
  /-- More loosely than any operator. -/
  | lowest
  | assign
  | range
  | or
  | and
  | compare
  | bitOr
  | bitXor
  | bitAnd
  | shift
  | sum
  | product
  | cast
  deriving DecidableEq, Repr

namespace Precedence

/-- The place in the order of precedences. -/
def level : Precedence → Nat
  | lowest => 0
  | assign => 1
  | range => 2
  | or => 3
  | and => 4
  | compare => 5
  | bitOr => 6
  | bitXor => 7
  | bitAnd => 8
  | shift => 9
  | sum => 10
  | product => 11
  | cast => 12

instance : LE Precedence := ⟨fun p q => p.level ≤ q.level⟩

instance : LT Precedence := ⟨fun p q => p.level < q.level⟩

instance (p q : Precedence) : Decidable (p ≤ q) := inferInstanceAs (Decidable (p.level ≤ q.level))

instance (p q : Precedence) : Decidable (p < q) := inferInstanceAs (Decidable (p.level < q.level))

end Precedence

/-- An operator with two operands. -/
structure Operator where
  text : String
  precedence : Precedence

namespace Operator

/-- The mark of an assignment. -/
def assignment : Operator := ⟨"=", .assign⟩

/-- The other operators, a longer one before its beginnings. -/
def all : List Operator :=
  [⟨"+=", .assign⟩, ⟨"-=", .assign⟩, ⟨"*=", .assign⟩, ⟨"/=", .assign⟩, ⟨"%=", .assign⟩,
    ⟨"^=", .assign⟩, ⟨"&=", .assign⟩, ⟨"|=", .assign⟩, ⟨"<<=", .assign⟩, ⟨">>=", .assign⟩,
    ⟨"&&", .and⟩, ⟨"||", .or⟩, ⟨"<<", .shift⟩, ⟨">>", .shift⟩, ⟨"==", .compare⟩, ⟨"<=", .compare⟩,
    ⟨"!=", .compare⟩, ⟨">=", .compare⟩, ⟨"+", .sum⟩, ⟨"-", .sum⟩, ⟨"*", .product⟩,
    ⟨"/", .product⟩, ⟨"%", .product⟩, ⟨"^", .bitXor⟩, ⟨"&", .bitAnd⟩, ⟨"|", .bitOr⟩,
    ⟨"<", .compare⟩, ⟨">", .compare⟩]

/-- Whether an operator could also begin the arguments of a type. -/
def beginsArguments (operator : Operator) : Bool := ["<<", "<"].contains operator.text

end Operator

end AdapterGen.Source
