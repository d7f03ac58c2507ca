import AdapterGen.Document
import AdapterGen.Text.Reader
import AdapterGen.Text.Segments

/-!
# TOML scalars

Blanks and line ends, keys, the four kinds of string, and the words that spell
truth values, numbers and dates.
-/

namespace AdapterGen.Document.Toml

open Text (Reader)

/-- Skips blanks within a line. -/
def blanks : Reader Unit := do
  let _ ← Reader.takeWhile fun c => c == ' ' || c == '\t'

/-- Whether a character may stand in a comment or a string; line ends are not asked about. -/
def isPrintable (c : Char) : Bool := c == '\t' || (0x20 ≤ c.toNat && c.toNat != 0x7f)

/-- Skips a comment, if there is one. -/
def comment : Reader Unit := do
  if ← Reader.accept "#" then
    let _ ← Reader.takeWhile isPrintable

/-- Whether a line ends here; the end is taken. -/
def newline : Reader Bool := do
  if ← Reader.accept "\n" then return true
  Reader.accept "\r\n"

/-- Skips blanks, comments and line ends. -/
def gap : Nat → Reader Unit
  | 0 => pure ()
  | fuel + 1 => do
      blanks
      comment
      if ← newline then gap fuel

/-- Skips blanks, comments and line ends, as many as there are. -/
def gaps : Reader Unit := do gap ((← Reader.rest).length + 1)

/-- The character of an escape after its backslash. -/
def escape : Reader Char := do
  match ← Reader.any with
  | 'b' => return '\x08'
  | 't' => return '\t'
  | 'n' => return '\n'
  | 'f' => return '\x0c'
  | 'r' => return '\r'
  | 'e' => return '\x1b'
  | '"' => return '"'
  | '\\' => return '\\'
  | 'x' => code 2
  | 'u' => code 4
  | 'U' => code 8
  | _ => failure
where
  /-- The character of a code point of so many digits. -/
  code (digits : Nat) : Reader Char := do
    match Text.scalar? (← Text.hexNumber digits 0) with
    | some c => return c
    | none => failure

/-- A basic string after its opening quote. -/
def basicString : Nat → Reader (List Char)
  | 0 => failure
  | fuel + 1 => do
      let c ← Reader.any
      if c == '"' then return []
      else if c == '\\' then
        let e ← escape
        return e :: (← basicString fuel)
      else if isPrintable c then return c :: (← basicString fuel)
      else failure

/-- A literal string after its opening quote. -/
def literalString : Reader (List Char) := do
  let cs ← Reader.takeWhile fun c => c != '\'' && isPrintable c
  Reader.char '\''
  return cs

/-- The line end as it stands, if a line ends here. -/
def newlineChars? : Reader (Option (List Char)) := do
  if ← Reader.accept "\n" then return some ['\n']
  if ← Reader.accept "\r\n" then return some ['\r', '\n']
  return none

/-- What closes a multi-line string: three quotes, or up to five of which the first two belong
to the string. -/
def closing (quote : Char) : Reader (Option (List Char)) := do
  let quotes := (← Reader.rest).takeWhile (· == quote)
  if quotes.length < 3 then return none
  let taken := min quotes.length 5
  set ((← Reader.rest).drop taken)
  return some (quotes.take (taken - 3))

/-- Skips blanks and line ends after a backslash that ends a line. -/
def continuation : Reader Unit := do
  blanks
  if !(← newline) then failure
  let left ← Reader.rest
  set (skip left.length left)
where
  /-- Drops blanks and line ends. -/
  skip : Nat → List Char → List Char
    | fuel + 1, '\r' :: '\n' :: rest => skip fuel rest
    | fuel + 1, c :: rest =>
        if c == ' ' || c == '\t' || c == '\n' then skip fuel rest else c :: rest
    | _, cs => cs

/-- A multi-line basic string after its opening quotes. -/
def multiLineBasic : Nat → Reader (List Char)
  | 0 => failure
  | fuel + 1 => do
      match ← closing '"' with
      | some quotes => return quotes
      | none =>
          match ← newlineChars? with
          | some cs => return cs ++ (← multiLineBasic fuel)
          | none =>
              let c ← Reader.any
              if c == '\\' then
                match ← Reader.peek? with
                | some ' ' | some '\t' | some '\n' | some '\r' =>
                    continuation
                    multiLineBasic fuel
                | _ =>
                    let e ← escape
                    return e :: (← multiLineBasic fuel)
              else if isPrintable c then return c :: (← multiLineBasic fuel)
              else failure

/-- A multi-line literal string after its opening quotes. -/
def multiLineLiteral : Nat → Reader (List Char)
  | 0 => failure
  | fuel + 1 => do
      match ← closing '\'' with
      | some quotes => return quotes
      | none =>
          match ← newlineChars? with
          | some cs => return cs ++ (← multiLineLiteral fuel)
          | none =>
              let c ← Reader.any
              if isPrintable c then return c :: (← multiLineLiteral fuel) else failure

/-- A string of any kind, if one begins here. -/
def string? : Reader (Option String) := do
  let fuel := (← Reader.rest).length + 1
  if ← Reader.accept "\"\"\"" then
    let _ ← newline
    return some (String.ofList (← multiLineBasic fuel))
  if ← Reader.accept "'''" then
    let _ ← newline
    return some (String.ofList (← multiLineLiteral fuel))
  if ← Reader.accept "\"" then return some (String.ofList (← basicString fuel))
  if ← Reader.accept "'" then return some (String.ofList (← literalString))
  return none

/-- A character of a bare key. -/
def isBareKeyChar (c : Char) : Bool := c.isAlphanum || c == '_' || c == '-'

/-- One part of a key. -/
def simpleKey : Reader String := do
  let fuel := (← Reader.rest).length + 1
  if ← Reader.accept "\"" then return String.ofList (← basicString fuel)
  if ← Reader.accept "'" then return String.ofList (← literalString)
  return String.ofList (← Reader.takeWhile1 isBareKeyChar)

/-- The parts of a dotted key. -/
def dottedKey : Nat → Reader (List String)
  | 0 => failure
  | fuel + 1 => do
      blanks
      let part ← simpleKey
      blanks
      if ← Reader.accept "." then return part :: (← dottedKey fuel)
      return [part]

/-- A key with all its parts. -/
def key : Reader (List String) := do dottedKey ((← Reader.rest).length + 1)

/-- Digits of a kind with single underscores between them. -/
def isDigitRun (isDigit : Char → Bool) (cs : List Char) : Bool :=
  (Text.segments '_' cs).all fun part => !part.isEmpty && part.all isDigit

/-- A word without the sign in front. -/
def withoutSign : List Char → List Char
  | '+' :: cs => cs
  | '-' :: cs => cs
  | cs => cs

/-- Decimal digits without a zero in front. -/
def isDecimal (cs : List Char) : Bool :=
  isDigitRun Char.isDigit cs && (cs.length == 1 || cs.head? != some '0')

/-- Whether a word spells an integer. -/
def isInteger : List Char → Bool
  | '0' :: 'x' :: cs => isDigitRun (fun c => (Text.hexValue? c).isSome) cs
  | '0' :: 'o' :: cs => isDigitRun (fun c => '0' ≤ c && c ≤ '7') cs
  | '0' :: 'b' :: cs => isDigitRun (fun c => c == '0' || c == '1') cs
  | cs => isDecimal (withoutSign cs)

/-- Whether a word spells a number that is not whole. -/
def isFloat (cs : List Char) : Bool :=
  let unsigned := withoutSign cs
  if unsigned == "inf".toList || unsigned == "nan".toList then true
  else
    let whole := unsigned.takeWhile fun c => c.isDigit || c == '_'
    let rest := unsigned.drop whole.length
    isDecimal whole &&
      match rest with
      | '.' :: rest =>
          let fraction := rest.takeWhile fun c => c.isDigit || c == '_'
          isDigitRun Char.isDigit fraction &&
            (rest.length == fraction.length || isExponent (rest.drop fraction.length))
      | rest => isExponent rest
where
  /-- Whether a word is an exponent with its mark. -/
  isExponent : List Char → Bool
    | 'e' :: cs => isDigitRun Char.isDigit (withoutSign cs)
    | 'E' :: cs => isDigitRun Char.isDigit (withoutSign cs)
    | _ => false

/-- The number that so many digits in front spell, and what follows. -/
def fixedDigits? (count : Nat) (cs : List Char) : Option (Nat × List Char) :=
  let digits := cs.take count
  if digits.length == count && digits.all Char.isDigit then
    some (digits.foldl (fun n c => n * 10 + (c.toNat - '0'.toNat)) 0, cs.drop count)
  else none

/-- How many days a month has. -/
def daysIn (year month : Nat) : Nat :=
  if month == 2 then
    if year % 4 == 0 && (year % 100 != 0 || year % 400 == 0) then 29 else 28
  else if [4, 6, 9, 11].contains month then 30
  else 31

/-- What follows a date in front. -/
def date? (cs : List Char) : Option (List Char) := do
  let (year, cs) ← fixedDigits? 4 cs
  guard (cs.head? == some '-')
  let (month, cs) ← fixedDigits? 2 cs.tail
  guard (1 ≤ month ∧ month ≤ 12 ∧ cs.head? == some '-')
  let (day, cs) ← fixedDigits? 2 cs.tail
  guard (1 ≤ day ∧ day ≤ daysIn year month)
  return cs

/-- What follows a time of day in front. -/
def time? (cs : List Char) : Option (List Char) := do
  let (hour, cs) ← fixedDigits? 2 cs
  guard (hour ≤ 23 ∧ cs.head? == some ':')
  let (minute, cs) ← fixedDigits? 2 cs.tail
  guard (minute ≤ 59)
  if cs.head? != some ':' then return cs
  let (second, cs) ← fixedDigits? 2 cs.tail
  guard (second ≤ 60)
  if cs.head? != some '.' then return cs
  let fraction := cs.tail.takeWhile Char.isDigit
  guard (!fraction.isEmpty)
  return cs.tail.drop fraction.length

/-- Whether a word is the offset of a time, or nothing. -/
def isOffset : List Char → Bool
  | [] => true
  | ['Z'] => true
  | ['z'] => true
  | sign :: cs =>
      (sign == '+' || sign == '-') &&
        match fixedDigits? 2 cs with
        | some (hours, ':' :: cs) =>
            hours ≤ 23 &&
              match fixedDigits? 2 cs with
              | some (minutes, []) => minutes ≤ 59
              | _ => false
        | _ => false

/-- Whether a word spells a date, a time of day, or both. -/
def isDateTime (cs : List Char) : Bool :=
  match date? cs with
  | some [] => true
  | some (mark :: rest) =>
      (mark == 'T' || mark == 't' || mark == ' ') && (time? rest).any isOffset
  | none => time? cs == some []

/-- A character of an unquoted word. -/
def isWordChar (c : Char) : Bool := c.isAlphanum || "+-_.:".toList.contains c

/-- An unquoted word; one blank may stand between a date and a time. -/
def word : Reader (List Char) := do
  let cs ← Reader.takeWhile1 isWordChar
  match date? cs, ← Reader.rest with
  | some [], ' ' :: rest =>
      if (time? rest).isSome then
        let _ ← Reader.any
        return cs ++ ' ' :: (← Reader.takeWhile isWordChar)
      else return cs
  | _, _ => return cs

/-- The value of an unquoted word. A date is a table with a key of its own. -/
def wordValue? (cs : List Char) : Option Document :=
  if cs == "true".toList then some (.boolean true)
  else if cs == "false".toList then some (.boolean false)
  else if isInteger cs || isFloat cs then some .number
  else if isDateTime cs then some (.table [("date", .text (String.ofList cs))])
  else none

end AdapterGen.Document.Toml
