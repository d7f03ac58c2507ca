import AdapterGen.Source.Grammar.Item
import AdapterGen.Source.TokenTree.Read

/-!
# Whole sources

The levels of the grammar put together, and the items of a source text. Every
few levels take a tree, so a multiple of the number of trees suffices.
-/

namespace AdapterGen.Source

namespace Grammar

/-- The grammar above another one. -/
def above (g : Grammar) : Grammar where
  bound := parsedBound g
  type := parsedType g
  pattern := patternForm g
  expr := exprForm g
  operand := operandForm g
  operators := operatorsAfter g
  leadingExpr := leadingExprForm g
  statements := allStatements g
  item := itemRest g

/-- The grammar of a number of levels. -/
def levels : Nat → Grammar
  | 0 => empty
  | n + 1 => above (levels n)

/-- The grammar for some trees. -/
def forTrees (trees : List TokenTree) : Grammar := levels (8 * (TokenTree.sizeAll trees + 1))

/-- The items of a file, after its own attributes. -/
def file (g : Grammar) : Parse (List Item) := do
  let _ ← innerAttributes g
  Parse.upTo Lookahead.done (attributedItem g)

end Grammar

/-- What a parser gives for some trees, if it takes all of them. -/
def parseAll? {α : Type} (parser : Grammar → Parse α) (trees : List TokenTree) : Option α :=
  match parser (Grammar.forTrees trees) { trees := trees } with
  | some (value, ⟨[], _, _⟩) => some value
  | _ => none

/-- The items of a source text. -/
def readItems? (text : String) : Option (List Item) :=
  (TokenTree.read? text).bind (parseAll? Grammar.file)

end AdapterGen.Source
