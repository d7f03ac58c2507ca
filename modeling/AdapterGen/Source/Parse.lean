import AdapterGen.Source.TokenTree

/-!
# Parsing token trees

Parsers take trees from the front of a list and fail without a value. They keep
how the trees taken are printed, since the grammar and not the source decides
which characters of punctuation are one token.
-/

namespace AdapterGen.Source

/-! ### Looking ahead -/

/-- A test of the trees to come. -/
abbrev Lookahead := List TokenTree → Bool

namespace Lookahead

/-- Whether given characters of punctuation come next, all but the last joined to the next. -/
def punctChars : List Char → Lookahead
  | [], _ => true
  | [c], .punct d _ :: _ => c == d
  | c :: cs, .punct d joined :: rest => c == d && joined && punctChars cs rest
  | _, _ => false

/-- Whether some punctuation comes next; the beginning of a longer one counts. -/
def punct (s : String) : Lookahead := punctChars s.toList

/-- Whether a word comes next. -/
def word (s : String) : Lookahead
  | .name text :: _ => text == s
  | _ => false

/-- Whether one of some words comes next. -/
def anyWord (words : List String) : Lookahead
  | .name text :: _ => words.contains text
  | _ => false

/-- The names that mean something of their own. -/
def reserved : List String :=
  ["_", "abstract", "as", "async", "await", "become", "box", "break", "const", "continue", "crate",
    "do", "dyn", "else", "enum", "extern", "false", "final", "fn", "for", "if", "impl", "in", "let",
    "loop", "macro", "match", "mod", "move", "mut", "override", "priv", "pub", "ref", "return",
    "Self", "self", "static", "struct", "super", "trait", "true", "try", "type", "typeof", "unsafe",
    "unsized", "use", "virtual", "where", "while", "yield"]

/-- Whether a name comes next that is not reserved. -/
def name : Lookahead
  | .name text :: _ => !reserved.contains text
  | _ => false

/-- Whether any name comes next. -/
def anyName : Lookahead
  | .name _ :: _ => true
  | _ => false

/-- Whether a lifetime comes next. -/
def lifetime : Lookahead
  | .punct '\'' true :: .name _ :: _ => true
  | _ => false

/-- Whether a literal comes next: a token of that kind, a truth value, or a negative number. -/
def literal : Lookahead
  | .literal _ _ :: _ => true
  | .name text :: _ => text == "true" || text == "false"
  | .punct '-' _ :: .literal (.integer _) _ :: _ => true
  | .punct '-' _ :: .literal .float _ :: _ => true
  | _ => false

/-- Whether a text literal comes next. -/
def text : Lookahead
  | .literal (.text _) _ :: _ => true
  | _ => false

/-- Whether a group in given brackets comes next. -/
def group (delimiter : Delimiter) : Lookahead
  | .group other _ :: _ => delimiter == other
  | _ => false

/-- Whether nothing comes next. -/
def done : Lookahead := List.isEmpty

/-- The trees after the next token; a lifetime is one token. -/
def skip : List TokenTree → List TokenTree
  | .punct '\'' true :: .name _ :: rest => rest
  | _ :: rest => rest
  | [] => []

/-- A test of the trees after the next token. -/
def second (test : Lookahead) : Lookahead
  | [] => false
  | trees => test (skip trees)

/-- A test of the trees after the next two tokens. -/
def third (test : Lookahead) : Lookahead := second (second test)

/-- Whether one test holds or another. -/
def either (tests : List Lookahead) : Lookahead := fun trees => tests.any (· trees)

/-- Whether some punctuation comes next that is not the beginning of others. -/
def only (s : String) (longer : List String) : Lookahead := fun trees =>
  punct s trees && !longer.any (punct · trees)

end Lookahead

/-! ### Parsers -/

/-- The trees to come, and how those taken are printed, the latest first. -/
structure Cursor where
  trees : List TokenTree
  printed : List Lexeme := []
  /-- Whether what was taken last ends in a group in braces. -/
  afterBrace : Bool := false

/-- A parser of token trees. -/
abbrev Parse := StateT Cursor Option

namespace Parse

open Lookahead (punct word)

/-- Tests the trees to come. -/
def next (test : Lookahead) : Parse Bool := do return test (← get).trees

/-- Fails unless a test holds. -/
def require (condition : Bool) : Parse Unit := if condition then pure () else failure

/-- Takes some trees, printed as one token. -/
def take (count : Nat) (lexeme : Lexeme) (inBraces : Bool) : Parse Unit :=
  modify fun cursor =>
    ⟨cursor.trees.drop count, lexeme :: cursor.printed, inBraces⟩

/-- Takes given punctuation, which is printed as one token. -/
def expect (s : String) : Parse Unit := do
  require (← next (punct s))
  take s.length ⟨s, false⟩ false

/-- Takes a given word. -/
def expectWord (s : String) : Parse Unit := do
  require (← next (word s))
  take 1 ⟨s, false⟩ false

/-- Takes given punctuation if it comes next. -/
def accept (s : String) : Parse Bool := do
  if ← next (punct s) then
    expect s
    return true
  else return false

/-- Takes a given word if it comes next. -/
def acceptWord (s : String) : Parse Bool := do
  if ← next (word s) then
    expectWord s
    return true
  else return false

/-- Takes any name. -/
def anyName : Parse String := do
  match (← get).trees with
  | .name text :: _ =>
      take 1 ⟨text, false⟩ false
      return text
  | _ => failure

/-- Takes a name that is not reserved. -/
def name : Parse String := do
  require (← next Lookahead.name)
  anyName

/-- Takes a lifetime. -/
def lifetime : Parse Unit := do
  match (← get).trees with
  | .punct '\'' true :: .name text :: _ => take 2 ⟨"'" ++ text, false⟩ false
  | _ => failure

/-- Takes a lifetime if one comes next. -/
def acceptLifetime : Parse Bool := do
  if ← next Lookahead.lifetime then
    lifetime
    return true
  else return false

/-- Takes a literal token. -/
def literalToken : Parse LiteralKind := do
  match (← get).trees with
  | .literal kind text :: _ =>
      take 1 ⟨text, false⟩ false
      return kind
  | _ => failure

/-- Takes a literal, which may be a truth value or a negative number. -/
def literal : Parse Unit := do
  require (← next Lookahead.literal)
  if ← next (punct "-") then take 1 ⟨"-", false⟩ false
  match (← get).trees with
  | tree :: _ => take 1 tree.lexeme false
  | [] => failure

/-- Takes a text literal and gives its value. -/
def text : Parse String := do
  match ← literalToken with
  | .text value => return value
  | _ => failure

/-- Takes a group in given brackets, whose trees a parser takes to the last. -/
def inGroup {α : Type} (delimiter : Delimiter) (inner : Parse α) : Parse α := do
  match (← get).trees with
  | .group other trees :: _ =>
      require (delimiter == other)
      match inner { trees := trees } with
      | some (value, ⟨[], printed, _⟩) =>
          take 1 ⟨delimiter.enclose (spell printed.reverse), false⟩ (delimiter == .brace)
          return value
      | _ => failure
  | _ => failure

/-- Takes a group in any brackets as it stands. -/
def anyGroup : Parse (Delimiter × List TokenTree) := do
  match (← get).trees with
  | .group delimiter trees :: _ =>
      take 1 (TokenTree.lexeme (.group delimiter trees)) (delimiter == .brace)
      return (delimiter, trees)
  | _ => failure

/-- Takes everything that is left as it stands. -/
def everything : Parse Unit := modify fun cursor =>
  ⟨[], (TokenTree.lexemes cursor.trees).reverse ++ cursor.printed, false⟩

/-! ### Printing -/

/-- Prints some lexemes. -/
def emit (lexemes : List Lexeme) : Parse Unit :=
  modify fun cursor => { cursor with printed := lexemes.reverse ++ cursor.printed }

/-- What a parser gives, and how the trees it takes are printed; nothing is printed yet. -/
def captured {α : Type} (inner : Parse α) : Parse (α × List Lexeme) := do
  let before := (← get).printed
  modify fun cursor => { cursor with printed := [] }
  let value ← inner
  let printed := (← get).printed
  modify fun cursor => { cursor with printed := before }
  return (value, printed.reverse)

/-- What a parser gives, and how the trees it takes are printed. -/
def withPrinted {α : Type} (inner : Parse α) : Parse (α × List Lexeme) := do
  let (value, printed) ← captured inner
  emit printed
  return (value, printed)

/-- What a parser gives, the trees it takes being left out of what is printed. -/
def unprinted {α : Type} (inner : Parse α) : Parse α := do return (← captured inner).1

/-- What a parser of several values gives; they are printed only if there are any. -/
def printedUnlessEmpty {α : Type} (inner : Parse (List α)) : Parse (List α) := do
  let (values, printed) ← captured inner
  if !values.isEmpty then emit printed
  return values

/-- The trees taken since a cursor, as they stand in the source. -/
def writtenSince (start : Cursor) : Parse (List Lexeme) := do
  let left := (← get).trees.length
  return TokenTree.lexemes (start.trees.take (start.trees.length - left))

/-- Prints the trees taken since a cursor as they stand in the source. -/
def asWrittenSince (start : Cursor) : Parse Unit := do
  let written ← writtenSince start
  modify fun cursor => { cursor with printed := written.reverse ++ start.printed }

/-- What a parser gives, with the trees it takes printed as they stand in the source. -/
def asWritten {α : Type} (inner : Parse α) : Parse α := do
  let start ← get
  let value ← inner
  asWrittenSince start
  return value

/-! ### Repetition -/

/-- Repeats a step as often as it asks for, at most a number of times. -/
def repeatAtMost : Nat → Parse Bool → Parse Unit
  | 0, _ => failure
  | count + 1, step => do if ← step then repeatAtMost count step

/-- Repeats a step while it asks for it. Each step but the last has to take a tree. -/
def repeatWhile (step : Parse Bool) : Parse Unit := do
  repeatAtMost ((← get).trees.length + 1) step

/-- Collects values, at most a number of them, until a step gives none. -/
def collectAtMost {α : Type} : Nat → Parse (Option α) → Parse (List α)
  | 0, _ => failure
  | count + 1, step => do
      match ← step with
      | some value => return value :: (← collectAtMost count step)
      | none => return []

/-- Collects values until a step gives none. Each step but the last has to take a tree. -/
def collect {α : Type} (step : Parse (Option α)) : Parse (List α) := do
  collectAtMost ((← get).trees.length + 1) step

/-- Values one after another until a test holds. -/
def upTo {α : Type} (stop : Lookahead) (item : Parse α) : Parse (List α) :=
  collect do if ← next stop then return none else return some (← item)

/-- Values with a separator between them until a test holds; a last separator may stand alone. -/
def separated {α : Type} (separator : String) (stop : Lookahead) (item : Parse α) :
    Parse (List α) :=
  collect do
    if ← next stop then return none
    let value ← item
    if !(← next stop) then expect separator
    return some value

/-- All the values of a list with commas. -/
def listed {α : Type} (item : Parse α) : Parse (List α) := separated "," Lookahead.done item

/-- At most a number of values, the next only after a separator, until a test holds. -/
def chainedAtMost {α : Type} (separator : String) (stop : Lookahead) (item : Parse α) :
    Nat → Parse (List α)
  | 0 => failure
  | count + 1 => do
      if ← next stop then return []
      let value ← item
      if ← accept separator then return value :: (← chainedAtMost separator stop item count)
      return [value]

/-- Values as long as a separator follows each, until a test holds. -/
def chained {α : Type} (separator : String) (stop : Lookahead) (item : Parse α) :
    Parse (List α) := do
  chainedAtMost separator stop item ((← get).trees.length + 1)

end Parse

end AdapterGen.Source
