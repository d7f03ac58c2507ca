import AdapterGen.Proofs.Java.Token
import AdapterGen.Text.Reader

/-!
# String literals of Java code

Code is read in two passes. The first replaces Unicode escapes, the second scans
tokens. A literal of a text goes through the first unchanged, and is one token
with the text as its value in the second.

## Implementation notes

Both passes depend on the backslashes in a row in front of a character. A character
of the text is written with an even number of them in front of it and leaves an even
number behind it; this is what the inductions carry. An escape of a surrogate is
refused, since it is no character by itself; the others are replaced as the language
replaces them.

-/

namespace AdapterGen.Java

open Code

/-! ### Unicode escapes -/

/-- Where the replacing of Unicode escapes is. -/
inductive EscapePlace where
  /-- Behind so many backslashes in a row. -/
  | behind (backslashes : Nat)
  /-- In an escape, behind so many hexadecimal digits with a value. -/
  | escape (digits value : Nat)

/-- The characters with Unicode escapes replaced. A backslash begins one if a `u` follows it and an
even number of backslashes is in front of it in a row; the `u` may be repeated. -/
def replaceEscapes? : EscapePlace → List Char → Option (List Char)
  | .behind _, [] => some []
  | .escape _ _, [] => none
  | .behind backslashes, c :: cs =>
      if c = '\\' then
        if backslashes % 2 = 0 ∧ cs.head? = some 'u' then replaceEscapes? (.escape 0 0) cs
        else (replaceEscapes? (.behind (backslashes + 1)) cs).map (c :: ·)
      else (replaceEscapes? (.behind 0) cs).map (c :: ·)
  | .escape digits value, c :: cs =>
      if digits = 0 ∧ c = 'u' then replaceEscapes? (.escape 0 0) cs
      else do
        let digit ← Text.hexValue? c
        if digits < 3 then replaceEscapes? (.escape (digits + 1) (value * 16 + digit)) cs
        else
          let escaped ← Text.scalar? (value * 16 + digit)
          let rest ← replaceEscapes? (.behind 0) cs
          return escaped :: rest

/-- The text with Unicode escapes replaced. -/
def unicode? (text : String) : Option String :=
  (replaceEscapes? (.behind 0) text.toList).map String.ofList

/-- The tokens of code, read in both passes. -/
def lex? (text : String) : Option (List Token) := unicode? text >>= tokens?

/-! ### Literals and Unicode escapes -/

/-- A character is written as itself, or as a backslash and another that is no `u`. -/
theorem escapeChar_cases (c : Char) :
    (∃ d, escapeChar c = ['\\', d] ∧ d ≠ 'u') ∨
      escapeChar c = [c] ∧ c ≠ '\\' ∧ c ≠ '"' ∧ c ≠ '\n' ∧ c ≠ '\r' := by
  unfold escapeChar
  split
  · exact .inl ⟨_, rfl, by decide⟩
  · exact .inl ⟨_, rfl, by decide⟩
  · exact .inl ⟨_, rfl, by decide⟩
  · exact .inl ⟨_, rfl, by decide⟩
  · exact .inl ⟨_, rfl, by decide⟩
  · rename_i noQuote noBackslash noNewline noReturn _
    exact .inr ⟨rfl, noBackslash, noQuote, noNewline, noReturn⟩

theorem replaceEscapes?_plain {c : Char} (plain : c ≠ '\\') (backslashes : Nat) (rest : List Char) :
    replaceEscapes? (.behind backslashes) (c :: rest) =
      (replaceEscapes? (.behind 0) rest).map (c :: ·) := by
  rw [replaceEscapes?, if_neg plain]

/-- Characters without backslashes are kept. -/
theorem replaceEscapes?_append {cs : List Char} (plain : '\\' ∉ cs) (rest : List Char) :
    replaceEscapes? (.behind 0) (cs ++ rest) =
      (replaceEscapes? (.behind 0) rest).map (cs ++ ·) := by
  induction cs with
  | nil => exact Option.map_id'.symm
  | cons c cs ih =>
      obtain ⟨first, others⟩ := not_or.mp (mt List.mem_cons.mpr plain)
      rw [List.cons_append, replaceEscapes?_plain (Ne.symm first), ih others, Option.map_map]
      rfl

/-- Behind an even number of backslashes, a written character is kept and leaves an even number. -/
theorem replaceEscapes?_escapeChar {backslashes : Nat} (even : backslashes % 2 = 0) (c : Char)
    (rest : List Char) :
    ∃ left, left % 2 = 0 ∧ replaceEscapes? (.behind backslashes) (escapeChar c ++ rest) =
      (replaceEscapes? (.behind left) rest).map (escapeChar c ++ ·) := by
  rcases escapeChar_cases c with ⟨d, shape, noEscape⟩ | ⟨shape, plain, -⟩
  · have first : replaceEscapes? (.behind backslashes) ('\\' :: d :: rest) =
        (replaceEscapes? (.behind (backslashes + 1)) (d :: rest)).map ('\\' :: ·) := by
      rw [replaceEscapes?, if_pos rfl, if_neg (by simp [noEscape])]
    rw [shape, List.cons_append, List.singleton_append, first]
    by_cases isBackslash : d = '\\'
    · subst isBackslash
      refine ⟨backslashes + 2, by omega, ?_⟩
      rw [replaceEscapes?, if_pos rfl, if_neg (by omega), Option.map_map]
      rfl
    · refine ⟨0, rfl, ?_⟩
      rw [replaceEscapes?_plain isBackslash, Option.map_map]
      rfl
  · refine ⟨0, rfl, ?_⟩
    rw [shape, List.singleton_append, replaceEscapes?_plain plain]
    rfl

theorem replaceEscapes?_escaped {backslashes : Nat} (even : backslashes % 2 = 0)
    (cs rest : List Char) :
    ∃ left, left % 2 = 0 ∧
      replaceEscapes? (.behind backslashes) (cs.flatMap escapeChar ++ rest) =
        (replaceEscapes? (.behind left) rest).map (cs.flatMap escapeChar ++ ·) := by
  induction cs generalizing backslashes with
  | nil => exact ⟨backslashes, even, Option.map_id'.symm⟩
  | cons c cs ih =>
      obtain ⟨between, evenBetween, first⟩ :=
        replaceEscapes?_escapeChar even c (cs.flatMap escapeChar ++ rest)
      obtain ⟨left, evenLeft, others⟩ := ih evenBetween
      refine ⟨left, evenLeft, ?_⟩
      rw [List.flatMap_cons, List.append_assoc, first, others, Option.map_map]
      congr 1
      funext later
      exact (List.append_assoc ..).symm

/-- Replacing Unicode escapes keeps a literal with code around it that has no backslash. -/
theorem unicode?_literal (front back : String) (plainFront : '\\' ∉ front.toList)
    (plainBack : '\\' ∉ back.toList) (value : String) :
    unicode? (front ++ stringLiteral value ++ back) =
      some (front ++ stringLiteral value ++ back) := by
  have behind : replaceEscapes? (.behind 0) back.toList = some back.toList := by
    simpa [replaceEscapes?] using replaceEscapes?_append plainBack []
  obtain ⟨left, -, inside⟩ := replaceEscapes?_escaped (show 0 % 2 = 0 from rfl) value.toList
    ('"' :: back.toList)
  have closing : replaceEscapes? (.behind left) ('"' :: back.toList) =
      some ('"' :: back.toList) := by
    rw [replaceEscapes?_plain (by decide), behind]
    rfl
  have shape : (front ++ stringLiteral value ++ back).toList =
      front.toList ++ '"' :: (value.toList.flatMap escapeChar ++ '"' :: back.toList) := by
    simp [stringLiteral]
  have kept : replaceEscapes? (.behind 0) (front ++ stringLiteral value ++ back).toList =
      some (front ++ stringLiteral value ++ back).toList := by
    rw [shape, replaceEscapes?_append plainFront, replaceEscapes?_plain (by decide), inside,
      closing]
    rfl
  rw [unicode?, kept, Option.map_some, String.ofList_toList]

theorem unicode?_stringLiteral (value : String) :
    unicode? (stringLiteral value) = some (stringLiteral value) := by
  have kept := unicode?_literal "" "" (by simp) (by simp) value
  rwa [String.empty_append, String.append_empty] at kept

/-- A literal is read as one token, which has the text as its value. -/
theorem lex?_stringLiteral (value : String) :
    lex? (stringLiteral value) = some [.literal value] := by
  calc
    lex? (stringLiteral value) = tokens? (stringLiteral value) := by
      rw [lex?, unicode?_stringLiteral, Option.bind_eq_bind, Option.bind_some]
    _ = some [.literal value] := (closed_stringLiteral value).tokens?

/-- A backslash alone would begin an escape here; the literal has two. -/
example : unicode? "\\u0041" = some "A" ∧
    lex? (stringLiteral "\\u0041") = some [.literal "\\u0041"] := by decide

theorem stringLiteral_eq_of_eq {value other : String}
    (same : stringLiteral value = stringLiteral other) : value = other := by
  have read := lex?_stringLiteral value
  rw [same, lex?_stringLiteral other] at read
  exact (Token.literal.inj (List.cons.inj (Option.some.inj read)).1).symm

/-! ### The inside of a literal -/

/-- The number of backslashes in a row at the end. -/
def backslashesAtEnd (cs : List Char) : Nat := (cs.reverse.takeWhile (· == '\\')).length

theorem backslashesAtEnd_backslash (cs : List Char) :
    backslashesAtEnd (cs ++ ['\\']) = backslashesAtEnd cs + 1 := by
  simp [backslashesAtEnd]

theorem backslashesAtEnd_plain (cs : List Char) {c : Char} (plain : c ≠ '\\') :
    backslashesAtEnd (cs ++ [c]) = 0 := by
  simp [backslashesAtEnd, plain]

/-- What is between the quotes of a literal: no end of a line, and no quote that is not escaped. -/
structure Inside (body : List Char) : Prop where
  noLineEnd : '\n' ∉ body ∧ '\r' ∉ body
  quotesEscaped : ∀ front back, body = front ++ '"' :: back → backslashesAtEnd front % 2 = 1

theorem noLineEnd_escapeChar (c : Char) : '\n' ∉ escapeChar c ∧ '\r' ∉ escapeChar c := by
  unfold escapeChar
  split <;> simp_all [eq_comm]

theorem noLineEnd_escaped (cs : List Char) :
    '\n' ∉ cs.flatMap escapeChar ∧ '\r' ∉ cs.flatMap escapeChar := by
  constructor
  · intro found
    obtain ⟨c, -, inChar⟩ := List.mem_flatMap.mp found
    exact (noLineEnd_escapeChar c).1 inChar
  · intro found
    obtain ⟨c, -, inChar⟩ := List.mem_flatMap.mp found
    exact (noLineEnd_escapeChar c).2 inChar

/-- A quote in written characters has an odd number of backslashes in front of it, if the number in
front of all of them is even. -/
theorem odd_of_quote {cs front back before : List Char} (even : backslashesAtEnd before % 2 = 0)
    (split : cs.flatMap escapeChar = front ++ '"' :: back) :
    backslashesAtEnd (before ++ front) % 2 = 1 := by
  induction cs generalizing front before with
  | nil => simp at split
  | cons c cs ih =>
      rw [List.flatMap_cons] at split
      rcases escapeChar_cases c with ⟨d, shape, -⟩ | ⟨shape, plain, noQuote, -⟩
      · rw [shape, List.cons_append, List.singleton_append] at split
        have afterOne := backslashesAtEnd_backslash before
        match front with
        | [] => simp at split
        | [e] =>
            obtain ⟨rfl, -⟩ := List.cons.inj split
            rw [afterOne]
            omega
        | e :: f :: front =>
            simp only [List.cons_append, List.cons.injEq] at split
            obtain ⟨rfl, rfl, split⟩ := split
            have evenBehind : backslashesAtEnd (before ++ ['\\', d]) % 2 = 0 := by
              rw [show before ++ ['\\', d] = (before ++ ['\\']) ++ [d] by simp]
              by_cases isBackslash : d = '\\'
              · rw [isBackslash, backslashesAtEnd_backslash, afterOne]
                omega
              · rw [backslashesAtEnd_plain _ isBackslash]
            simpa using ih evenBehind split
      · rw [shape, List.singleton_append] at split
        match front with
        | [] =>
            obtain ⟨isQuote, -⟩ := List.cons.inj split
            exact absurd isQuote noQuote
        | e :: front =>
            simp only [List.cons_append, List.cons.injEq] at split
            obtain ⟨rfl, split⟩ := split
            have evenBehind : backslashesAtEnd (before ++ [c]) % 2 = 0 := by
              rw [backslashesAtEnd_plain _ plain]
            simpa using ih evenBehind split

theorem inside_escaped (cs : List Char) : Inside (cs.flatMap escapeChar) where
  noLineEnd := noLineEnd_escaped cs
  quotesEscaped _ _ split := odd_of_quote (show backslashesAtEnd [] % 2 = 0 from rfl) split

end AdapterGen.Java
