import AdapterGen.TypeDescriptor.Token
import Mathlib.Data.List.TakeWhile

/-!
# The steps of cutting

A text is cut from its front: blanks are passed over, a token is taken, or the
text is broken there.

## Implementation notes

`Cuts` says once what each step can do, faults included, and at which byte it
begins. What holds of all cut texts is an induction on the steps.

-/

namespace AdapterGen

namespace Text

/-- No range of one set meets a range of the other. -/
def CharRanges.apart (a b : CharRanges) : Bool :=
  a.all fun r => b.all fun s => r.2 < s.1 || s.2 < r.1

theorem CharRanges.has_eq_false_of_apart {a b : CharRanges} (disjoint : a.apart b = true)
    {c : Char} (inside : a.has c = true) : b.has c = false := by
  refine Bool.eq_false_iff.mpr fun both => ?_
  obtain ⟨r, hr, rLow, rHigh⟩ := exists_of_covers inside
  obtain ⟨s, hs, sLow, sHigh⟩ := exists_of_covers both
  have separate := List.all_eq_true.mp (List.all_eq_true.mp disjoint r hr) s hs
  simp only [Bool.or_eq_true, decide_eq_true_eq] at separate
  omega

theorem isAlphanumeric_eq_false_of_isBlank {c : Char} (blank : isBlank c = true) :
    isAlphanumeric c = false :=
  have disjoint : CharRanges.apart blankRanges alphanumericRanges = true := by decide +kernel
  CharRanges.has_eq_false_of_apart disjoint blank

/-- A run of characters that pass a test, up to one that does not. -/
theorem takeWhile_run {p : Char → Bool} {run cs : List Char} (inRun : ∀ c ∈ run, p c = true)
    (stop : ∀ c, cs.head? = some c → p c = false) : (run ++ cs).takeWhile p = run := by
  rw [List.takeWhile_append_of_pos inRun]
  cases cs with
  | nil => simp
  | cons c rest => simp [stop c rfl]

theorem dropWhile_run {p : Char → Bool} {run cs : List Char} (inRun : ∀ c ∈ run, p c = true)
    (stop : ∀ c, cs.head? = some c → p c = false) : (run ++ cs).dropWhile p = cs := by
  rw [List.dropWhile_append_of_pos inRun]
  cases cs with
  | nil => rfl
  | cons c rest => simp [stop c rfl]

theorem head?_dropWhile_eq_false {p : Char → Bool} {cs : List Char} {c : Char}
    (first : (cs.dropWhile p).head? = some c) : p c = false := by
  have failing := List.head?_dropWhile_not p cs
  rw [first] at failing
  simpa using failing

end Text

namespace TypeDescriptor

theorem isNameChar_eq_false_of_isBlank {c : Char} (blank : Text.isBlank c = true) :
    isNameChar c = false := by
  have noLetter := Text.isAlphanumeric_eq_false_of_isBlank blank
  have noSign : c ≠ '_' ∧ c ≠ '$' ∧ c ≠ '.' := by
    refine ⟨?_, ?_, ?_⟩ <;> rintro rfl <;> revert blank <;> decide
  simp [isNameChar, noLetter, noSign]

theorem isBlank_eq_false_of_isNameChar {c : Char} (part : isNameChar c = true) :
    Text.isBlank c = false :=
  Bool.eq_false_iff.mpr fun blank =>
    Bool.false_ne_true ((isNameChar_eq_false_of_isBlank blank).symm.trans part)

/-- A character that spells a token of its own. -/
theorem Token.ofChar?_eq_some {c : Char} {token : Token} (spelled : Token.ofChar? c = some token) :
    Text.isBlank c = false ∧ c ≠ '[' ∧ isNameChar c = false := by
  have symbol : c = '<' ∨ c = '>' ∨ c = ',' ∨ c = '?' := by
    unfold Token.ofChar? at spelled
    split at spelled <;> simp_all
  rcases symbol with rfl | rfl | rfl | rfl <;> decide

/-- Such a character is the text of its token, which is no name. -/
theorem Token.text_of_ofChar? {c : Char} {token : Token} (spelled : Token.ofChar? c = some token) :
    token.text.toList = [c] ∧ ∀ name, token ≠ .name name := by
  unfold Token.ofChar? at spelled
  split at spelled <;> cases spelled <;> simp [Token.text]

/-- The characters cannot go on a name in front of them. -/
def Stops (cs : List Char) : Prop := ∀ c, cs.head? = some c → isNameChar c = false

theorem stops_cons {c : Char} {cs : List Char} (noName : isNameChar c = false) :
    Stops (c :: cs) := by
  intro d first
  obtain rfl : c = d := Option.some.inj first
  exact noName

theorem Stops.of_append {cs ds : List Char} (stops : Stops (cs ++ ds)) : Stops cs := by
  intro c first
  exact stops c (by rw [List.head?_append, first, Option.some_or])

/-- Counting the bytes of characters is counting those of their text. -/
theorem utf8ByteSize_ofList (cs : List Char) :
    (String.ofList cs).utf8ByteSize = byteLength cs := by
  induction cs with
  | nil => rfl
  | cons c cs ih =>
      rw [String.ofList_cons, String.utf8ByteSize_append, String.utf8ByteSize_singleton, ih,
        byteLength]

/-! ### The steps of cutting -/

/-- The ways to write a token: a name is a run of name characters, and the brackets of an array
may have blanks between them. -/
inductive Token.Spelling : Token → List Char → Prop
  | symbol {c : Char} {t : Token} : Token.ofChar? c = some t → Spelling t [c]
  | dims {blanks : List Char} :
      (∀ c ∈ blanks, Text.isBlank c = true) → Spelling .dims ('[' :: (blanks ++ [']']))
  | name {run : List Char} :
      run ≠ [] → (∀ c ∈ run, isNameChar c = true) → Spelling (.name (String.ofList run)) run

/-- The characters behind a token do not belong to it: a name is not followed by more of it. -/
def Token.EndsBefore (t : Token) (cs : List Char) : Prop :=
  ∀ text, t = .name text → Stops cs

/-- A text, which begins at some byte, at whose front no token can be cut off: a character that
begins none, or an opening bracket that is not closed behind blanks. -/
inductive Broken (position : Nat) : List Char → SyntaxError → Prop
  | foreign {c : Char} {rest : List Char} :
      Text.isBlank c = false → c ≠ '[' → isNameChar c = false → Token.ofChar? c = none →
        Broken position (c :: rest) (.unexpected position c.toString)
  | bracket {blanks : List Char} {c : Char} {rest : List Char} :
      (∀ b ∈ blanks, Text.isBlank b = true) → Text.isBlank c = false → c ≠ ']' →
        Broken position ('[' :: (blanks ++ c :: rest))
          (.unexpected (position + byteLength ('[' :: blanks)) c.toString)
  | unclosed {blanks : List Char} :
      (∀ b ∈ blanks, Text.isBlank b = true) → Broken position ('[' :: blanks) .unexpectedEnd

/-- Cutting a text, which begins at some byte, step by step. -/
inductive Cuts : Nat → List Char → Except SyntaxError (List PlacedToken) → Prop
  | done {position : Nat} : Cuts position [] (.ok [])
  | blank {position : Nat} {c : Char} {cs : List Char} {result} :
      Text.isBlank c = true → Cuts (position + c.utf8Size) cs result →
        Cuts position (c :: cs) result
  | token {position : Nat} {t : Token} {front cs : List Char} {result} :
      t.Spelling front → t.EndsBefore cs → Cuts (position + byteLength front) cs result →
        Cuts position (front ++ cs) (result.map (⟨position, t⟩ :: ·))
  | broken {position : Nat} {cs : List Char} {error : SyntaxError} :
      Broken position cs error → Cuts position cs (.error error)

theorem cuts_tokensFrom (position : Nat) (cs : List Char) :
    Cuts position cs (tokensFrom position cs) := by
  have bind_eq_map (head : PlacedToken) (result : Except SyntaxError (List PlacedToken)) :
      (do let tokens ← result; return head :: tokens) = result.map (head :: ·) := by
    cases result <;> rfl
  fun_induction tokensFrom position cs with
  | case1 => exact .done
  | case2 position c rest blank ih => exact .blank blank ih
  | case3 position rest closing noBlank =>
      exact .broken (.unclosed (List.dropWhile_eq_nil_iff.mp closing))
  | case4 position rest blanks after noBlank inner closing ih =>
      have taken : '[' :: rest = '[' :: (blanks ++ [']']) ++ after := by
        rw [List.cons_append, List.append_assoc, List.singleton_append, ← closing,
          List.takeWhile_append_dropWhile]
      have behind : inner + ']'.utf8Size = position + byteLength ('[' :: (blanks ++ [']'])) := by
        simp only [inner, byteLength, byteLength_append]
        omega
      rw [behind] at ih
      rw [bind_eq_map, taken, behind]
      refine .token (.dims fun c found => ?_) ?_ ih
      · exact List.all_eq_true.mp List.all_takeWhile c found
      · intro text isName
        exact Token.noConfusion isName
  | case5 position rest blanks d after closing notClosed noBlank inner =>
      have taken : rest = blanks ++ d :: after := by
        rw [← closing, List.takeWhile_append_dropWhile]
      have isFirst : (rest.dropWhile Text.isBlank).head? = some d := by
        rw [closing, List.head?_cons]
      have first : Text.isBlank d = false := Text.head?_dropWhile_eq_false isFirst
      have place : inner = position + byteLength ('[' :: blanks) := Nat.add_assoc ..
      rw [taken, place]
      exact .broken (.bracket (List.all_eq_true.mp List.all_takeWhile) first notClosed)
  | case6 position c rest noBlank noBracket first run ih =>
      have taken : c :: rest = (c :: run) ++ rest.dropWhile isNameChar := by
        rw [List.cons_append, List.takeWhile_append_dropWhile]
      rw [bind_eq_map, taken]
      refine .token (.name (List.cons_ne_nil c run) ?_) ?_ ih
      · exact List.forall_mem_cons.mpr ⟨first, List.all_eq_true.mp List.all_takeWhile⟩
      · exact fun _ _ d => Text.head?_dropWhile_eq_false
  | case7 position c rest noBlank noBracket noName token spelled ih =>
      rw [bind_eq_map, ← List.singleton_append]
      refine .token (.symbol spelled) ?_ ih
      intro text isName
      exact absurd isName ((Token.text_of_ofChar? spelled).2 text)
  | case8 position c rest noBlank noBracket noName noToken =>
      exact .broken (.foreign (by simpa using noBlank) noBracket (by simpa using noName) noToken)

end TypeDescriptor

end AdapterGen
