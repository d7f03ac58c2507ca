import AdapterGen.Source.TokenTree
import AdapterGen.Text.IdentifierChar
import AdapterGen.Text.Quoted
import AdapterGen.Text.Reader

/-!
# Literals

Readers for texts, bytes, characters and numbers. Each literal may end in a
suffix that looks like a name. A text is also written as a literal.
-/

namespace AdapterGen.Source.Literal

open Text (Reader)

/-! ### Names -/

/-- A name without a raw mark. -/
def plainName : Reader (List Char) := do
  let first ← Reader.satisfy Text.isIdentifierStart
  return first :: (← Reader.takeWhile Text.isIdentifierContinue)

/-- The suffix of a literal, empty when there is none. -/
def suffix : Reader (List Char) := plainName <|> pure []

/-! ### Quoted literals -/

/-- What may stand in a kind of quoted literal. -/
structure QuotedRules where
  /-- The characters that stand for themselves. -/
  plain : Char → Bool
  /-- The codes that an escape of two digits may have. -/
  code : Nat → Bool
  /-- Whether characters are escaped by their code points. -/
  codePoints : Bool

/-- A text holds any characters. -/
def textRules : QuotedRules := ⟨fun _ => true, (· < 0x80), true⟩

/-- A byte text holds bytes. -/
def byteRules : QuotedRules := ⟨(·.toNat < 0x80), fun _ => true, false⟩

/-- A null-terminated text holds no null. -/
def terminatedRules : QuotedRules := ⟨(· ≠ '\x00'), (· ≠ 0), true⟩

/-- A code point in braces: one to six hexadecimal digits, with underscores after the first. -/
def codePoint : Reader Char := do
  Reader.char '\x7b'
  let body ← Reader.takeWhile fun c => c == '_' || (Text.hexValue? c).isSome
  Reader.char '\x7d'
  let digits := body.filterMap Text.hexValue?
  if body.head? = some '_' ∨ digits = [] ∨ digits.length > 6 then failure
  else
    match Text.scalar? (digits.foldl (fun value digit => value * 16 + digit) 0) with
    | some c => pure c
    | none => failure

/-- What an escape stands for, after its backslash. -/
def escape (rules : QuotedRules) : Reader Char := do
  match ← Reader.any with
  | 'n' => pure '\n'
  | 'r' => pure '\r'
  | 't' => pure '\t'
  | '\\' => pure '\\'
  | '\'' => pure '\''
  | '"' => pure '"'
  | '0' => if rules.code 0 then pure '\x00' else failure
  | 'x' =>
      let code ← Text.hexNumber 2 0
      if rules.code code then pure (Char.ofNat code) else failure
  | 'u' =>
      if rules.codePoints then
        let c ← codePoint
        if rules.plain c then pure c else failure
      else failure
  | _ => failure

/-- Skips the blanks after an escaped line end. A carriage return belongs to a line end. -/
def skipIndent : List Char → Option (List Char)
  | '\r' :: '\n' :: rest => skipIndent rest
  | '\r' :: _ => none
  | ' ' :: rest | '\t' :: rest | '\n' :: rest => skipIndent rest
  | [] => none
  | rest => some rest

/-- The characters up to and with the closing quote. An escaped line end and the indentation of
the next line stand for nothing. -/
def quoted (rules : QuotedRules) : Nat → Reader (List Char)
  | 0 => failure
  | fuel + 1 => do
      let c ← Reader.any
      if c == '"' then return []
      else if c == '\r' then
        Reader.char '\n'
        return '\n' :: (← quoted rules fuel)
      else if c == '\\' then
        let next ← Reader.peek?
        if next = some '\n' ∨ next = some '\r' then
          match skipIndent (← Reader.rest) with
          | some rest =>
              set rest
              quoted rules fuel
          | none => failure
        else
          let d ← escape rules
          return d :: (← quoted rules fuel)
      else if rules.plain c then return c :: (← quoted rules fuel)
      else failure

/-- The characters of a raw literal up to its closing mark, and what follows. -/
def rawBody (plain : Char → Bool) (mark : List Char) :
    List Char → Option (List Char × List Char)
  | [] => none
  | '"' :: rest =>
      if mark.isPrefixOf rest then some ([], rest.drop mark.length)
      else (rawBody plain mark rest).map fun (body, rest) => ('"' :: body, rest)
  | '\r' :: '\n' :: rest =>
      (rawBody plain mark rest).map fun (body, rest) => ('\r' :: '\n' :: body, rest)
  | '\r' :: _ => none
  | c :: rest =>
      if plain c then (rawBody plain mark rest).map fun (body, rest) => (c :: body, rest)
      else none

/-- A raw literal after its letters: at most 255 number signs, and as many at the end. -/
def raw (rules : QuotedRules) : Reader (List Char) := do
  let mark ← Reader.takeWhile (· == '#')
  Reader.char '"'
  if mark.length > 255 then failure
  match rawBody rules.plain mark (← Reader.rest) with
  | some (body, rest) =>
      set rest
      return body
  | none => failure

/-- A quoted or raw literal that begins with a letter for its kind, if it has one. -/
def quotedOrRaw (letter : String) (rules : QuotedRules) : Reader (List Char) := do
  Reader.literal letter
  if ← Reader.accept "\"" then quoted rules ((← Reader.rest).length + 1)
  else
    Reader.char 'r'
    raw rules

/-- The inside of a character literal and its closing quote. -/
def quotedChar (rules : QuotedRules) : Reader Unit := do
  let c ← Reader.any
  let d ← if c == '\\' then escape rules else pure c
  if !rules.plain d && c != '\\' then failure
  Reader.char '\''

/-! ### Numbers -/

/-- What follows the exponent that some characters are, given whether a sign and a digit have been
seen. An exponent needs a digit. -/
def afterExponent : (signed valued : Bool) → List Char → Option (List Char)
  | signed, valued, c :: rest =>
      if c = '+' ∨ c = '-' then
        if valued then some (c :: rest)
        else if signed then none
        else afterExponent true valued rest
      else if c.isDigit then afterExponent signed true rest
      else if c = '_' then afterExponent signed valued rest
      else if valued then some (c :: rest)
      else none
  | _, valued, [] => if valued then some [] else none

/-- A decimal digit or a separator between digits. -/
def isDigitOrGap (c : Char) : Bool := c.isDigit || c == '_'

/-- Whether a point before some characters does not belong to a number. -/
def pointIsSeparate : List Char → Bool
  | [] => false
  | c :: _ => c == '.' || Text.isIdentifierStart c

/-- What follows an exponent mark, the mark itself being part of what follows when it has no
digits. -/
def exponentOr (otherwise : Option (List Char)) (rest : List Char) : Option (List Char) :=
  afterExponent false false rest <|> otherwise

/-- What follows the digits of a number that has a point or an exponent. -/
def afterFloat : List Char → Option (List Char)
  | [] => none
  | c :: rest =>
      if !c.isDigit then none
      else
        match rest.dropWhile isDigitOrGap with
        | '.' :: fraction =>
            if pointIsSeparate fraction then none
            else
              match fraction.dropWhile isDigitOrGap with
              | 'e' :: power => exponentOr (some ('e' :: power)) power
              | 'E' :: power => exponentOr (some ('E' :: power)) power
              | other => some other
        | 'e' :: power => exponentOr none power
        | 'E' :: power => exponentOr none power
        | _ => none

/-- The digits of a whole number in a base with their value, and what follows. A letter that is no
digit ends the number, and a decimal digit that is too large spoils it. -/
def wholeDigits (base : Nat) : (value : Option Nat) → List Char → Option (Nat × List Char)
  | value, [] => value.map (·, [])
  | value, c :: rest =>
      if c = '_' then
        if value.isNone ∧ base = 10 then none else wholeDigits base value rest
      else
        match Text.hexValue? c with
        | some digit =>
            if digit < base then wholeDigits base (some (value.getD 0 * base + digit)) rest
            else if c.isDigit then none
            else value.map (·, c :: rest)
        | none => value.map (·, c :: rest)

/-- A whole number and what follows. -/
def whole (cs : List Char) : Option (Nat × List Char) :=
  match cs with
  | '0' :: 'x' :: rest => wholeDigits 16 none rest
  | '0' :: 'o' :: rest => wholeDigits 8 none rest
  | '0' :: 'b' :: rest => wholeDigits 2 none rest
  | cs => wholeDigits 10 none cs

/-- Fails where a name would go on. -/
def wordEnd : Reader Unit := do
  if (← Reader.peek?).any Text.isIdentifierContinue then failure

/-- A number with a point or an exponent. -/
def float : Reader LiteralKind := do
  match afterFloat (← Reader.rest) with
  | some rest =>
      set rest
      let _ ← suffix
      wordEnd
      return .float
  | none => failure

/-- A whole number. -/
def integer : Reader LiteralKind := do
  match whole (← Reader.rest) with
  | some (value, rest) =>
      set rest
      let letters ← suffix
      wordEnd
      return .integer (if letters.isEmpty then some value else none)
  | none => failure

/-! ### Texts as literals -/

/-- Whether a character is an octal digit. -/
def isOctal (c : Char) : Bool := '0' ≤ c && c ≤ '7'

/-- Characters as they stand in a literal. Apostrophes stand for themselves, and a null before an
octal digit is spelled with two digits. -/
def escaped : List Char → List Char
  | [] => []
  | c :: rest =>
      let spelled :=
        if c == '\'' then [c]
        else if c == '\x00' && rest.head?.any isOctal then ['\\', 'x', '0', '0']
        else Text.quotedChar c
      spelled ++ escaped rest

/-- A text as a literal. -/
def ofChars (text : List Char) : String := "\"" ++ String.ofList (escaped text) ++ "\""

/-! ### All literals -/

/-- A literal without its suffix, the kinds tried in order. -/
def kind : Reader LiteralKind :=
  (do
      let body ← quotedOrRaw "" textRules
      let _ ← suffix
      return .text (String.ofList body)) <|>
    (do
      let _ ← quotedOrRaw "b" byteRules
      let _ ← suffix
      return .other) <|>
    (do
      let _ ← quotedOrRaw "c" terminatedRules
      let _ ← suffix
      return .other) <|>
    (do
      Reader.literal "b'"
      quotedChar byteRules
      let _ ← suffix
      return .other) <|>
    (do
      Reader.char '\''
      quotedChar textRules
      let _ ← suffix
      return .other) <|>
    float <|> integer

/-- A literal with its text. -/
def read : Reader TokenTree := do
  let before ← Reader.rest
  let k ← kind
  let length := before.length - (← Reader.rest).length
  return .literal k (String.ofList (before.take length))

end AdapterGen.Source.Literal
