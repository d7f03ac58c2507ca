/-!
# Readers of characters

A reader takes characters from the front of a list and gives a value, or fails.
-/

namespace AdapterGen.Text

/-- A reader of characters. -/
abbrev Reader := StateT (List Char) Option

namespace Reader

/-- The characters left. -/
def rest : Reader (List Char) := get

/-- The next character, which stays. -/
def peek? : Reader (Option Char) := List.head? <$> get

/-- The next character. -/
def any : Reader Char := fun
  | [] => none
  | c :: cs => some (c, cs)

/-- The next character, if it passes a test. -/
def satisfy (p : Char → Bool) : Reader Char := fun
  | [] => none
  | c :: cs => if p c then some (c, cs) else none

/-- A given character. -/
def char (c : Char) : Reader Unit := (fun _ => ()) <$> satisfy (· == c)

/-- Given characters. -/
def literal (s : String) : Reader Unit := fun cs =>
  if s.toList.isPrefixOf cs then some ((), cs.drop s.toList.length) else none

/-- Whether given characters come next, which are then taken. -/
def accept (s : String) : Reader Bool := fun cs =>
  if s.toList.isPrefixOf cs then some (true, cs.drop s.toList.length) else some (false, cs)

/-- The longest run of characters that pass a test. -/
def takeWhile (p : Char → Bool) : Reader (List Char) := fun cs =>
  some (cs.takeWhile p, cs.dropWhile p)

/-- A non-empty run of characters that pass a test, as long as possible. -/
def takeWhile1 (p : Char → Bool) : Reader (List Char) := do
  let taken ← takeWhile p
  if taken.isEmpty then failure else return taken

/-- The end of the text. -/
def done : Reader Unit := fun
  | [] => some ((), [])
  | _ => none

/-- The value read from a whole text. -/
def run? {α : Type} (reader : Reader α) (cs : List Char) : Option α :=
  match reader cs with
  | some (value, []) => some value
  | _ => none

end Reader

/-- The value of a hexadecimal digit. -/
def hexValue? (c : Char) : Option Nat :=
  if '0' ≤ c ∧ c ≤ '9' then some (c.toNat - '0'.toNat)
  else if 'a' ≤ c ∧ c ≤ 'f' then some (c.toNat - 'a'.toNat + 10)
  else if 'A' ≤ c ∧ c ≤ 'F' then some (c.toNat - 'A'.toNat + 10)
  else none

/-- A number of a given count of hexadecimal digits. -/
def hexNumber : Nat → Nat → Reader Nat
  | 0, value => pure value
  | count + 1, value => do
      match hexValue? (← Reader.any) with
      | some digit => hexNumber count (value * 16 + digit)
      | none => failure

/-- The character of a code point, unless it is a surrogate or out of range. -/
def scalar? (code : Nat) : Option Char :=
  if h : code.isValidChar then some (Char.ofNatAux code h) else none

end AdapterGen.Text
