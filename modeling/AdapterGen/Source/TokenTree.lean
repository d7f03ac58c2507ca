/-!
# Token trees

A source as names, punctuation, literals and bracketed groups, and how such
trees are printed: one space between two tokens, unless the first is joined to
the second.
-/

namespace AdapterGen.Source

/-- A pair of brackets. -/
inductive Delimiter where
  | parenthesis
  | bracket
  | brace
  deriving DecidableEq, Repr

/-- What a literal denotes, as far as it matters. -/
inductive LiteralKind where
  | text (value : String)
  /-- A whole number; its value when it has no suffix. -/
  | integer (value : Option Nat)
  | float
  | other
  deriving DecidableEq, Repr

/-- A token, or a group of them in brackets. A name keeps its raw mark, and punctuation is joined
when more punctuation follows at once. -/
inductive TokenTree where
  | name (text : String)
  | punct (char : Char) (joined : Bool)
  | literal (kind : LiteralKind) (text : String)
  | group (delimiter : Delimiter) (trees : List TokenTree)
  deriving Repr

/-- A printed token. -/
structure Lexeme where
  text : String
  joined : Bool := false
  deriving DecidableEq, Repr

/-- Lexemes in a row. -/
def spell : List Lexeme → String
  | [] => ""
  | [last] => last.text
  | first :: next :: rest =>
      first.text ++ (if first.joined then "" else " ") ++ spell (next :: rest)

/-- A group around an inner text. Braces keep a distance from it. -/
def Delimiter.enclose (inner : String) : Delimiter → String
  | parenthesis => "(" ++ inner ++ ")"
  | bracket => "[" ++ inner ++ "]"
  | brace => if inner = "" then "\x7b \x7d" else "\x7b " ++ inner ++ " \x7d"

namespace TokenTree

mutual

/-- The printed form of a tree. -/
def lexeme : TokenTree → Lexeme
  | name text => ⟨text, false⟩
  | punct char joined => ⟨char.toString, joined⟩
  | literal _ text => ⟨text, false⟩
  | group delimiter trees => ⟨delimiter.enclose (spell (lexemes trees)), false⟩

/-- The printed forms of trees. -/
def lexemes : List TokenTree → List Lexeme
  | [] => []
  | tree :: trees => lexeme tree :: lexemes trees

end

mutual

/-- How many trees a tree consists of, itself included. -/
def size : TokenTree → Nat
  | group _ trees => 1 + sizeAll trees
  | name _ | punct _ _ | literal _ _ => 1

/-- How many trees some trees consist of. -/
def sizeAll : List TokenTree → Nat
  | [] => 0
  | tree :: trees => size tree + sizeAll trees

end

end TokenTree

end AdapterGen.Source
