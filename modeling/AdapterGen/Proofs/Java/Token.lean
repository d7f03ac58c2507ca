import AdapterGen.Code.StringLiteral
import AdapterGen.Proofs.TypeDescriptor.Layout

/-!
# Tokens of Java code

Code is scanned one character at a time into words, string literals and signs.
A word is any run of characters that are neither blanks nor ASCII punctuation,
so that every identifier and every keyword is one word.

## Implementation notes

Only `==` is a sign of two characters. A character that begins no token stops
the scan, and so does an escape other than the five that literals are written
with; a Unicode escape is among those. What is scanned is therefore never read
in another way than the language reads it, but not all of the language is.

-/

namespace AdapterGen.Java

open Code

/-- A token of Java code. -/
inductive Token where
  | word (text : String)
  | literal (value : String)
  | sign (c : Char)
  /-- The sign `==`. -/
  | equal
  deriving DecidableEq, Repr

/-- Blanks, line ends and ASCII punctuation other than the underscore and the dollar sign. -/
def separatorRanges : Text.CharRanges :=
  [(0x09, 0x0a), (0x0c, 0x0d), (0x20, 0x23), (0x25, 0x2f), (0x3a, 0x40), (0x5b, 0x5e),
   (0x60, 0x60), (0x7b, 0x7e)]

/-- A character of a word. -/
def isWordChar (c : Char) : Bool := !separatorRanges.has c

/-- A character that only separates tokens. -/
def isSpace (c : Char) : Bool := c == ' ' || c == '\t' || c == '\n' || c == '\r' || c == '\x0c'

/-- The signs of one character; the equals sign is scanned apart. -/
def isSign (c : Char) : Bool := "()\x7b\x7d[]<>,.;:?".toList.contains c

/-- The character that an escape in a literal stands for. -/
def unescape? : Char → Option Char
  | '"' => some '"'
  | '\\' => some '\\'
  | 'n' => some '\n'
  | 'r' => some '\r'
  | 't' => some '\t'
  | _ => none

/-- What the scan is in, with the characters read so far. -/
inductive Mode where
  | between
  | word (read : List Char)
  | literal (read : List Char)
  | escape (read : List Char)
  /-- Behind an equals sign. -/
  | equals
  deriving DecidableEq, Repr

/-- The tokens that a character completes, and what the scan is in behind it, between tokens. -/
def begin? (c : Char) : Option (List Token × Mode) :=
  if isWordChar c then some ([], .word [c])
  else if isSpace c then some ([], .between)
  else if c = '"' then some ([], .literal [])
  else if c = '=' then some ([], .equals)
  else if isSign c then some ([.sign c], .between)
  else none

/-- The tokens that a character completes, and what the scan is in behind it. -/
def step? : Mode → Char → Option (List Token × Mode)
  | .between, c => begin? c
  | .word read, c =>
      if isWordChar c then some ([], .word (read ++ [c]))
      else (begin? c).map fun next => (.word (String.ofList read) :: next.1, next.2)
  | .literal read, c =>
      if c = '"' then some ([.literal (String.ofList read)], .between)
      else if c = '\\' then some ([], .escape read)
      else if c = '\n' ∨ c = '\r' then none
      else some ([], .literal (read ++ [c]))
  | .escape read, c => (unescape? c).map fun d => ([], .literal (read ++ [d]))
  | .equals, c =>
      if c = '=' then some ([.equal], .between)
      else (begin? c).map fun next => (.sign '=' :: next.1, next.2)

/-- The tokens that characters complete, and what the scan is in behind them. -/
def scan? : Mode → List Char → Option (List Token × Mode)
  | mode, [] => some ([], mode)
  | mode, c :: cs => do
      let (now, next) ← step? mode c
      let (later, last) ← scan? next cs
      return (now ++ later, last)

/-- The tokens of a text that does not end within a token. -/
def tokens? (text : String) : Option (List Token) :=
  match scan? .between text.toList with
  | some (ts, .between) => some ts
  | _ => none

/-! ### Texts that end between tokens -/

theorem scan?_append {mode next last : Mode} {cs ds : List Char} {ts us : List Token}
    (front : scan? mode cs = some (ts, next)) (back : scan? next ds = some (us, last)) :
    scan? mode (cs ++ ds) = some (ts ++ us, last) := by
  induction cs generalizing mode ts with
  | nil =>
      obtain ⟨rfl, rfl⟩ : [] = ts ∧ mode = next := by simpa [scan?] using front
      exact back
  | cons c cs ih =>
      simp only [scan?, Option.bind_eq_bind, Option.bind_eq_some_iff] at front
      obtain ⟨⟨now, inner⟩, stepped, ⟨later, ending⟩, scanned, result⟩ := front
      obtain ⟨rfl, rfl⟩ : now ++ later = ts ∧ ending = next := by simpa using result
      simp [scan?, stepped, ih scanned]

/-- A text that is scanned as tokens from between tokens to between tokens. -/
def Closed (text : String) (ts : List Token) : Prop :=
  scan? .between text.toList = some (ts, .between)

instance (text : String) (ts : List Token) : Decidable (Closed text ts) :=
  inferInstanceAs (Decidable (_ = _))

theorem Closed.tokens? {text : String} {ts : List Token} (closed : Closed text ts) :
    tokens? text = some ts := by
  rw [Java.tokens?, closed]

theorem Closed.append {text more : String} {ts us : List Token} (front : Closed text ts)
    (back : Closed more us) : Closed (text ++ more) (ts ++ us) := by
  unfold Closed
  rw [String.toList_append]
  exact scan?_append front back

/-! ### Texts in front of something that does not go on a word -/

/-- The characters cannot go on a word in front of them. -/
def Breaks (cs : List Char) : Prop := ∃ c rest, cs = c :: rest ∧ isWordChar c = false

/-- A text that is scanned as tokens in front of anything that does not go on a word. -/
def Spells (text : String) (ts : List Token) : Prop :=
  ∀ rest us last, Breaks rest → scan? .between rest = some (us, last) →
    scan? .between (text.toList ++ rest) = some (ts ++ us, last)

theorem Closed.spells {text : String} {ts : List Token} (closed : Closed text ts) :
    Spells text ts := fun _ _ _ _ scanned => scan?_append closed scanned

theorem breaks_of_head {text : String}
    (head : (text.toList.head?.map isWordChar) = some false) : Breaks text.toList := by
  cases shape : text.toList with
  | nil => simp [shape] at head
  | cons c rest => exact ⟨c, rest, rfl, by simpa [shape] using head⟩

theorem Breaks.append {cs : List Char} (breaks : Breaks cs) (ds : List Char) :
    Breaks (cs ++ ds) := by
  obtain ⟨c, rest, rfl, noWord⟩ := breaks
  exact ⟨c, rest ++ ds, rfl, noWord⟩

theorem Spells.append {text more : String} {ts us : List Token} (front : Spells text ts)
    (back : Spells more us) (breaks : Breaks more.toList) : Spells (text ++ more) (ts ++ us) := by
  intro rest vs last breaksRest scanned
  rw [String.toList_append, List.append_assoc, List.append_assoc]
  exact front _ _ _ (breaks.append rest) (back rest vs last breaksRest scanned)

theorem Closed.append_spells {text more : String} {ts us : List Token} (front : Closed text ts)
    (back : Spells more us) : Spells (text ++ more) (ts ++ us) := by
  intro rest vs last breaks scanned
  rw [String.toList_append, List.append_assoc, List.append_assoc]
  exact scan?_append front (back rest vs last breaks scanned)

theorem Spells.append_closed {text more : String} {ts us : List Token} (front : Spells text ts)
    (back : Closed more us) (breaks : Breaks more.toList) : Closed (text ++ more) (ts ++ us) := by
  unfold Closed
  rw [String.toList_append]
  exact front _ _ _ breaks back

/-! ### Words -/

/-- A text that is one word. -/
structure IsWord (text : String) : Prop where
  nonempty : text ≠ ""
  wordChars : ∀ c ∈ text.toList, isWordChar c = true

instance (text : String) : Decidable (IsWord text) :=
  decidable_of_iff ((!text.toList.isEmpty && text.toList.all isWordChar) = true) (by
    rw [Bool.and_eq_true, Bool.not_eq_true', List.isEmpty_eq_false_iff, List.all_eq_true]
    exact ⟨fun h => ⟨fun empty => h.1 (String.toList_eq_nil_iff.mpr empty), h.2⟩,
      fun h => ⟨fun empty => h.nonempty (String.toList_eq_nil_iff.mp empty), h.wordChars⟩⟩)

theorem scan?_word (read cs : List Char) (wordChars : ∀ c ∈ cs, isWordChar c = true) :
    scan? (.word read) cs = some ([], .word (read ++ cs)) := by
  induction cs generalizing read with
  | nil => simp [scan?]
  | cons c cs ih =>
      have first : isWordChar c = true := wordChars c (by simp)
      have others := ih (read ++ [c]) fun d found => wordChars d (by simp [found])
      simp [scan?, step?, first, others]

theorem IsWord.scan?_eq {text : String} (isWord : IsWord text) :
    scan? .between text.toList = some ([], .word text.toList) := by
  have nonempty : text.toList ≠ [] := fun empty =>
    isWord.nonempty (String.toList_eq_nil_iff.mp empty)
  obtain ⟨c, rest, shape⟩ := List.exists_cons_of_ne_nil nonempty
  have inWord := isWord.wordChars
  rw [shape] at inWord ⊢
  have first : isWordChar c = true := inWord c (by simp)
  have others := scan?_word [c] rest fun d found => inWord d (by simp [found])
  simp [scan?, step?, begin?, first, others]

/-- What does not go on a word ends it. -/
theorem scan?_word_end (read : List Char) {cs : List Char} {us : List Token} {last : Mode}
    (breaks : Breaks cs) (scanned : scan? .between cs = some (us, last)) :
    scan? (.word read) cs = some (.word (String.ofList read) :: us, last) := by
  obtain ⟨c, rest, rfl, noWord⟩ := breaks
  simp only [scan?, step?, Option.bind_eq_bind, Option.bind_eq_some_iff] at scanned
  obtain ⟨⟨now, next⟩, stepped, ⟨later, ending⟩, rest, result⟩ := scanned
  obtain ⟨rfl, rfl⟩ : now ++ later = us ∧ ending = last := by simpa using result
  simp [scan?, step?, noWord, stepped, rest]

theorem IsWord.spells {text : String} (isWord : IsWord text) : Spells text [.word text] := by
  intro rest us last breaks scanned
  have ended := scan?_word_end text.toList breaks scanned
  rw [String.ofList_toList] at ended
  simpa using scan?_append isWord.scan?_eq ended

/-- The characters of names in the type syntax, the dot apart, are characters of words. -/
theorem isWordChar_of_isNameChar {c : Char} (part : TypeDescriptor.isNameChar c = true)
    (noDot : c ≠ '.') : isWordChar c = true := by
  have disjoint : Text.CharRanges.apart Text.alphanumericRanges separatorRanges = true := by
    decide +kernel
  simp only [TypeDescriptor.isNameChar, Bool.or_eq_true, beq_iff_eq, noDot, or_false] at part
  rcases part with (letter | rfl) | rfl
  · simp [isWordChar, Text.CharRanges.has_eq_false_of_apart disjoint letter]
  · decide
  · decide

/-! ### String literals -/

/-- A character of a text, as it is written in a literal, is read as itself. -/
theorem scan?_escapeChar (read : List Char) (c : Char) :
    scan? (.literal read) (escapeChar c) = some ([], .literal (read ++ [c])) := by
  unfold escapeChar
  split
  · simp [scan?, step?, unescape?]
  · simp [scan?, step?, unescape?]
  · simp [scan?, step?, unescape?]
  · simp [scan?, step?, unescape?]
  · simp [scan?, step?, unescape?]
  · simp_all [scan?, step?]

theorem scan?_escaped (read cs : List Char) :
    scan? (.literal read) (cs.flatMap escapeChar) = some ([], .literal (read ++ cs)) := by
  induction cs generalizing read with
  | nil => simp [scan?]
  | cons c cs ih =>
      have both := scan?_append (scan?_escapeChar read c) (ih (read ++ [c]))
      simpa using both

/-- The literal of a text is read as that text, whatever characters it has. -/
theorem closed_stringLiteral (value : String) :
    Closed (stringLiteral value) [.literal value] := by
  have opening : scan? .between ['"'] = some ([], .literal []) := by decide
  have closing : scan? (.literal value.toList) ['"'] = some ([.literal value], .between) := by
    simp [scan?, step?]
  have inner := scan?_append (scan?_escaped [] value.toList) closing
  have whole := scan?_append opening inner
  simpa [Closed, stringLiteral] using whole

end AdapterGen.Java
