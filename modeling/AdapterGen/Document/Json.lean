import AdapterGen.Document
import AdapterGen.Text.Reader

/-!
# JSON texts

The strict format: one value between blanks, no comma before a closing bracket,
no raw control characters. A text with half of a surrogate pair is well formed
but unreadable, and so is an object with such a key.
-/

namespace AdapterGen.Document.Json

open Text (Reader)

/-- Skips blanks. -/
def blanks : Reader Unit := do
  let _ ← Reader.takeWhile fun c => c == ' ' || c == '\t' || c == '\n' || c == '\r'

/-- The character that a one-letter escape stands for. -/
def shortEscape? : Char → Option Char
  | '"' => some '"'
  | '\\' => some '\\'
  | '/' => some '/'
  | 'b' => some '\x08'
  | 'f' => some '\x0c'
  | 'n' => some '\n'
  | 'r' => some '\r'
  | 't' => some '\t'
  | _ => none

/-- A unit of a string: a character, or a 16-bit unit given by an escape. -/
inductive TextUnit where
  | char (c : Char)
  | escaped (unit : Nat)

/-- The characters of units, unless a surrogate is alone. -/
def charsOf : List TextUnit → Option (List Char)
  | [] => some []
  | .char c :: rest => (charsOf rest).map (c :: ·)
  | [.escaped u] => (Text.scalar? u).map ([·])
  | .escaped u :: .escaped v :: rest =>
      if 0xd800 ≤ u ∧ u < 0xdc00 then
        if 0xdc00 ≤ v ∧ v < 0xe000 then do
          let c ← Text.scalar? (0x10000 + (u - 0xd800) * 0x400 + (v - 0xdc00))
          return c :: (← charsOf rest)
        else none
      else do
        let c ← Text.scalar? u
        return c :: (← charsOf (.escaped v :: rest))
  | .escaped u :: .char d :: rest => do
      let c ← Text.scalar? u
      return c :: (← charsOf (.char d :: rest))

/-- The units of a string up to and with its closing quote. -/
def stringUnits : Nat → Reader (List TextUnit)
  | 0 => failure
  | fuel + 1 => do
      let c ← Reader.any
      if c == '"' then return []
      else if c.toNat < 0x20 then failure
      else if c == '\\' then
        let e ← Reader.any
        if e == 'u' then
          let unit ← Text.hexNumber 4 0
          return .escaped unit :: (← stringUnits fuel)
        else
          match shortEscape? e with
          | some d => return .char d :: (← stringUnits fuel)
          | none => failure
      else return .char c :: (← stringUnits fuel)

/-- A string after its opening quote, `none` inside when it is unreadable. -/
def string : Reader (Option String) := do
  let units ← stringUnits ((← Reader.rest).length + 1)
  return (charsOf units).map String.ofList

/-- A non-empty run of digits. -/
def digits : Reader Unit := do
  let _ ← Reader.takeWhile1 Char.isDigit

/-- A number. -/
def number : Reader Unit := do
  let _ ← Reader.accept "-"
  if !(← Reader.accept "0") then digits
  if ← Reader.accept "." then digits
  let lower ← Reader.accept "e"
  let exponent ← if lower then pure true else Reader.accept "E"
  if exponent then
    if !(← Reader.accept "+") then
      let _ ← Reader.accept "-"
    digits

/-- The object with some entries, unreadable when a key is. -/
def object (entries : List (Option String × Document)) : Document :=
  match entries.mapM fun (key, value) => key.map (·, value) with
  | some entries => .table entries
  | none => .unreadable

mutual

/-- A value. The fuel bounds the nesting and the number of items. -/
def value : Nat → Reader Document
  | 0 => failure
  | fuel + 1 => do
      blanks
      match ← Reader.peek? with
      | some 'n' => Reader.literal "null"; return .null
      | some 't' => Reader.literal "true"; return .boolean true
      | some 'f' => Reader.literal "false"; return .boolean false
      | some '"' =>
          Reader.char '"'
          match ← string with
          | some s => return .text s
          | none => return .unreadable
      | some '[' =>
          Reader.char '['
          blanks
          if ← Reader.accept "]" then return .list []
          return .list (← items fuel)
      | some '\x7b' =>
          Reader.char '\x7b'
          blanks
          if ← Reader.accept "\x7d" then return .table []
          return object (← entries fuel)
      | _ => number; return .number

/-- The items of a list up to and with its closing bracket. -/
def items : Nat → Reader (List Document)
  | 0 => failure
  | fuel + 1 => do
      let item ← value fuel
      blanks
      if ← Reader.accept "," then return item :: (← items fuel)
      Reader.char ']'
      return [item]

/-- The entries of an object up to and with its closing brace. -/
def entries : Nat → Reader (List (Option String × Document))
  | 0 => failure
  | fuel + 1 => do
      blanks
      Reader.char '"'
      let key ← string
      blanks
      Reader.char ':'
      let item ← value fuel
      blanks
      if ← Reader.accept "," then return (key, item) :: (← entries fuel)
      Reader.char '\x7d'
      return [(key, item)]

end

/-- The value of a JSON text. -/
def read? (s : String) : Option Document :=
  let cs := s.toList
  (do let document ← value (cs.length + 1); blanks; return document : Reader Document).run? cs

end AdapterGen.Document.Json
