import AdapterGen.Document.Toml.Scalar
import AdapterGen.Document.Toml.Tables

/-!
# TOML texts

Values, inline tables and arrays, and the lines of a document. Inline tables may
span lines and end in a comma, as arrays may.
-/

namespace AdapterGen.Document.Toml

open Text (Reader)

mutual

/-- A value. The fuel bounds the nesting and the number of items. -/
def value : Nat → Reader Document
  | 0 => failure
  | fuel + 1 => do
      match ← string? with
      | some s => return .text s
      | none =>
          if ← Reader.accept "[" then return .list (← items fuel)
          if ← Reader.accept "\x7b" then
            return .table (finishEntries (← pairs fuel []))
          match wordValue? (← word) with
          | some document => return document
          | none => failure

/-- The items of an array up to and with its closing bracket. -/
def items : Nat → Reader (List Document)
  | 0 => failure
  | fuel + 1 => do
      gaps
      if ← Reader.accept "]" then return []
      let item ← value fuel
      gaps
      if ← Reader.accept "," then return item :: (← items fuel)
      Reader.char ']'
      return [item]

/-- The entries of an inline table up to and with its closing brace, after earlier ones. -/
def pairs : Nat → Entries → Reader Entries
  | 0, _ => failure
  | fuel + 1, entries => do
      gaps
      if ← Reader.accept "\x7d" then return entries
      let path ← key
      Reader.char '='
      blanks
      let item ← value fuel
      match insertDotted true entries item path with
      | none => failure
      | some entries =>
          gaps
          if ← Reader.accept "," then pairs fuel entries
          else
            Reader.char '\x7d'
            return entries

end

/-- The end of a line, after a comment, or the end of the text. -/
def lineEnd : Reader Unit := do
  blanks
  comment
  if !(← newline) then Reader.done

/-- A statement without its line end. -/
def statement : Reader Statement := do
  if ← Reader.accept "[[" then
    let path ← key
    Reader.literal "]]"
    return .itemHeader path
  if ← Reader.accept "[" then
    let path ← key
    Reader.char ']'
    return .header path
  let path ← key
  Reader.char '='
  blanks
  let document ← value ((← Reader.rest).length + 1)
  return .entry path document

/-- The statements up to the end of the text. -/
def statements : Nat → Reader (List Statement)
  | 0 => failure
  | fuel + 1 => do
      gaps
      match ← Reader.peek? with
      | none => return []
      | some _ =>
          let first ← statement
          lineEnd
          return first :: (← statements fuel)

/-- A text without the mark of byte order in front. -/
def withoutMark : List Char → List Char
  | '\ufeff' :: cs => cs
  | cs => cs

/-- The value of a TOML text, a table. -/
def read? (s : String) : Option Document := do
  let cs := withoutMark s.toList
  let lines ← (statements (cs.length + 1)).run? cs
  return .table (finishEntries (← addStatements [] [] lines))

end AdapterGen.Document.Toml
