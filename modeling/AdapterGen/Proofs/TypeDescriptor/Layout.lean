import AdapterGen.Proofs.Outcome
import AdapterGen.Proofs.TypeDescriptor.Cutting

/-!
# Layouts of the type syntax

A layout of tokens writes them one after another with blanks put between them
at will. A run of name characters is one token, so that two names need a blank
or another token between them.

## Implementation notes

The relation carries no positions. Cutting a text into tokens finds exactly the
tokens of which the text is a layout, whatever byte the text begins at.

-/

namespace AdapterGen.TypeDescriptor

/-- The characters are a layout of the tokens. -/
inductive Layout : List Char → List Token → Prop
  | done : Layout [] []
  | blank {c : Char} {cs : List Char} {ts : List Token} :
      Text.isBlank c = true → Layout cs ts → Layout (c :: cs) ts
  | symbol {c : Char} {t : Token} {cs : List Char} {ts : List Token} :
      Token.ofChar? c = some t → Layout cs ts → Layout (c :: cs) (t :: ts)
  | dims {blanks cs : List Char} {ts : List Token} :
      (∀ c ∈ blanks, Text.isBlank c = true) → Layout cs ts →
        Layout ('[' :: (blanks ++ ']' :: cs)) (.dims :: ts)
  | name {run cs : List Char} {ts : List Token} :
      run ≠ [] → (∀ c ∈ run, isNameChar c = true) →
        (∀ c, cs.head? = some c → isNameChar c = false) → Layout cs ts →
          Layout (run ++ cs) (.name (String.ofList run) :: ts)

theorem Layout.behind {t : Token} {front cs : List Char} {ts : List Token}
    (spelling : t.Spelling front) (ends : t.EndsBefore cs) (layout : Layout cs ts) :
    Layout (front ++ cs) (t :: ts) := by
  cases spelling with
  | symbol spelled => exact .symbol spelled layout
  | dims inBrackets => simpa using Layout.dims inBrackets layout
  | name nonempty inName => exact .name nonempty inName (ends _ rfl) layout

section Cutting

variable {position : Nat} {c : Char} {rest : List Char}

theorem tokensFrom_blank (blank : Text.isBlank c = true) :
    tokensFrom position (c :: rest) = tokensFrom (position + c.utf8Size) rest := by
  rw [tokensFrom]
  simp [blank]

theorem tokensFrom_symbol {token : Token} (spelled : Token.ofChar? c = some token) :
    tokensFrom position (c :: rest) =
      (tokensFrom (position + c.utf8Size) rest).map (⟨position, token⟩ :: ·) := by
  obtain ⟨noBlank, noBracket, noName⟩ := Token.ofChar?_eq_some spelled
  rw [tokensFrom]
  simp only [noBlank, noBracket, noName, spelled, Bool.false_eq_true, if_false]
  cases tokensFrom (position + c.utf8Size) rest <;> rfl

theorem tokensFrom_dims (position : Nat) (rest : List Char) {blanks : List Char}
    (inBrackets : ∀ c ∈ blanks, Text.isBlank c = true) :
    tokensFrom position ('[' :: (blanks ++ ']' :: rest)) =
      (tokensFrom (position + byteLength ('[' :: (blanks ++ [']']))) rest).map
        (⟨position, .dims⟩ :: ·) := by
  have stop : ∀ c, (']' :: rest).head? = some c → Text.isBlank c = false := by
    intro c first
    obtain rfl : ']' = c := Option.some.inj first
    decide
  have behind : position + byteLength ('[' :: (blanks ++ [']'])) =
      position + '['.utf8Size + byteLength blanks + ']'.utf8Size := by
    simp only [byteLength, byteLength_append]
    omega
  rw [tokensFrom, behind]
  simp only [show Text.isBlank '[' = false by decide, Bool.false_eq_true, if_false, if_true,
    Text.takeWhile_run inBrackets stop]
  split
  · rename_i closing
    rw [Text.dropWhile_run inBrackets stop] at closing
    contradiction
  · rename_i d after closing
    rw [Text.dropWhile_run inBrackets stop] at closing
    obtain ⟨rfl, rfl⟩ := List.cons.inj closing
    simp only [if_true]
    cases tokensFrom _ rest <;> rfl

theorem tokensFrom_name (position : Nat) {run : List Char} (nonempty : run ≠ [])
    (inName : ∀ c ∈ run, isNameChar c = true)
    (stop : ∀ c, rest.head? = some c → isNameChar c = false) :
    tokensFrom position (run ++ rest) =
      (tokensFrom (position + byteLength run) rest).map
        (⟨position, .name (String.ofList run)⟩ :: ·) := by
  obtain ⟨c, tail, rfl⟩ := List.exists_cons_of_ne_nil nonempty
  have first : isNameChar c = true := inName c (by simp)
  have noBlank := isBlank_eq_false_of_isNameChar first
  have noBracket : c ≠ '[' := by
    rintro rfl
    revert first
    decide
  have inTail : ∀ d ∈ tail, isNameChar d = true := fun d hd => inName d (by simp [hd])
  rw [List.cons_append, tokensFrom]
  simp only [noBlank, noBracket, first, Bool.false_eq_true, if_false, if_true,
    Text.takeWhile_run inTail stop, Text.dropWhile_run inTail stop]
  cases tokensFrom _ rest <;> rfl

end Cutting

/-- Cutting goes through a layout, in front of anything that does not go on a name. -/
theorem Layout.tokensFrom_append {cs rest : List Char} {ts : List Token} (layout : Layout cs ts)
    (stop : ∀ c, rest.head? = some c → isNameChar c = false) (position : Nat) :
    ∃ placed, placed.map (·.token) = ts ∧ tokensFrom position (cs ++ rest) =
      (tokensFrom (position + byteLength cs) rest).map (placed ++ ·) := by
  have behind (head : PlacedToken) (more : List PlacedToken)
      (found : Except SyntaxError (List PlacedToken)) :
      (found.map (more ++ ·)).map (head :: ·) = found.map (head :: more ++ ·) := by
    cases found <;> rfl
  induction layout generalizing position with
  | done =>
      refine ⟨[], rfl, ?_⟩
      rw [List.nil_append, byteLength, Nat.add_zero]
      cases tokensFrom position rest <;> rfl
  | @blank c cs ts blank _ ih =>
      obtain ⟨placed, same, cut⟩ := ih (position + c.utf8Size)
      refine ⟨placed, same, ?_⟩
      rw [List.cons_append, tokensFrom_blank blank, cut, byteLength, Nat.add_assoc]
  | @symbol c t cs ts spelled _ ih =>
      obtain ⟨placed, same, cut⟩ := ih (position + c.utf8Size)
      refine ⟨⟨position, t⟩ :: placed, by simp [same], ?_⟩
      rw [List.cons_append, tokensFrom_symbol spelled, cut, byteLength, Nat.add_assoc,
        behind]
  | @dims blanks cs ts inBrackets _ ih =>
      obtain ⟨placed, same, cut⟩ := ih (position + byteLength ('[' :: (blanks ++ [']'])))
      refine ⟨⟨position, .dims⟩ :: placed, by simp [same], ?_⟩
      have split : '[' :: (blanks ++ ']' :: cs) = '[' :: (blanks ++ [']']) ++ cs := by simp
      have regroup : '[' :: (blanks ++ ']' :: cs) ++ rest =
          '[' :: (blanks ++ ']' :: (cs ++ rest)) := by simp
      rw [regroup, tokensFrom_dims position _ inBrackets, cut, split, byteLength_append, Nat.add_assoc,
        behind]
  | @name run cs ts nonempty inName stopRun _ ih =>
      obtain ⟨placed, same, cut⟩ := ih (position + byteLength run)
      have stopBoth : ∀ c, (cs ++ rest).head? = some c → isNameChar c = false := by
        intro c first
        cases cs with
        | nil => exact stop c first
        | cons d more => exact stopRun c first
      refine ⟨⟨position, .name (String.ofList run)⟩ :: placed, by simp [same], ?_⟩
      rw [List.append_assoc, tokensFrom_name position nonempty inName stopBoth, cut,
        byteLength_append, Nat.add_assoc, behind]

theorem Layout.exists_tokensFrom {cs : List Char} {ts : List Token} (layout : Layout cs ts)
    (position : Nat) :
    ∃ placed, tokensFrom position cs = .ok placed ∧ placed.map (·.token) = ts := by
  have ended : ∀ c, ([] : List Char).head? = some c → isNameChar c = false := by simp
  obtain ⟨placed, same, cut⟩ := layout.tokensFrom_append ended position
  refine ⟨placed, ?_, same⟩
  simpa [tokensFrom, Except.map] using cut

theorem Cuts.layout {position : Nat} {cs : List Char} {result} (cuts : Cuts position cs result)
    {placed : List PlacedToken} (whole : result = .ok placed) :
    Layout cs (placed.map (·.token)) := by
  induction cuts generalizing placed with
  | done =>
      obtain rfl := Except.ok.inj whole
      exact .done
  | blank blank _ ih => exact .blank blank (ih whole)
  | @token position t front cs result spelling ends _ ih =>
      cases result with
      | error cause => contradiction
      | ok more =>
          obtain rfl := Except.ok.inj whole
          exact .behind spelling ends (ih rfl)
  | broken => contradiction

theorem layout_of_tokensFrom {position : Nat} {cs : List Char} {placed : List PlacedToken}
    (cut : tokensFrom position cs = .ok placed) : Layout cs (placed.map (·.token)) :=
  (cuts_tokensFrom position cs).layout cut

/-- A text is a layout of one token sequence at most. -/
theorem Layout.unique {cs : List Char} {ts us : List Token} (left : Layout cs ts)
    (right : Layout cs us) : ts = us := by
  obtain ⟨placed, cut, rfl⟩ := left.exists_tokensFrom 0
  obtain ⟨other, cutAgain, rfl⟩ := right.exists_tokensFrom 0
  rw [Except.ok.inj (cut.symm.trans cutAgain)]

/-! ### Where tokens stand -/

/-- A token stands in a text, which begins at some byte, between other tokens. A name is a whole
run of name characters, so that it goes on to neither side. -/
structure StandsIn (position : Nat) (before : List Token) (t : PlacedToken) (after : List Token)
    (front text rest : List Char) : Prop where
  place : t.position = position + byteLength front
  before : Layout front before
  spelling : t.token.Spelling text
  after : Layout rest after
  begins : ∀ name, t.token = .name name → ∀ c, front.getLast? = some c → isNameChar c = false
  ends : t.token.EndsBefore rest

theorem Token.Spelling.ne_nil {t : Token} {text : List Char} (spelling : t.Spelling text) :
    text ≠ [] := by
  cases spelling with
  | symbol => simp
  | dims => simp
  | name nonempty => exact nonempty

/-- What stands behind a token is no name that goes on from it. -/
theorem Token.Spelling.isNameChar_getLast? {t : Token} {front text rest : List Char} {name : String}
    (spelling : t.Spelling front) (named : (Token.name name).Spelling text)
    (ends : t.EndsBefore (text ++ rest)) :
    ∀ c, front.getLast? = some c → isNameChar c = false := by
  intro c last
  cases spelling with
  | symbol spelled =>
      obtain rfl := Option.some.inj last
      exact (Token.ofChar?_eq_some spelled).2.2
  | dims _ =>
      rw [← List.cons_append, List.getLast?_concat] at last
      obtain rfl := Option.some.inj last
      decide
  | name _ _ =>
      cases named with
      | symbol spelled => exact absurd rfl ((Token.text_of_ofChar? spelled).2 name)
      | name nonempty inName =>
          obtain ⟨d, more, rfl⟩ := List.exists_cons_of_ne_nil nonempty
          have part : isNameChar d = true := inName d List.mem_cons_self
          have noPart : isNameChar d = false := ends _ rfl d rfl
          rw [part] at noPart
          contradiction

theorem Cuts.exists_standsIn {position : Nat} {cs : List Char} {result}
    (cuts : Cuts position cs result) {before after : List PlacedToken} {t : PlacedToken}
    (whole : result = .ok (before ++ t :: after)) :
    ∃ front text rest, cs = front ++ (text ++ rest) ∧
      StandsIn position (before.map (·.token)) t (after.map (·.token)) front text rest := by
  induction cuts generalizing before with
  | done => simp at whole
  | @blank position c cs result blank _ ih =>
      obtain ⟨front, text, rest, rfl, stands⟩ := ih whole
      refine ⟨c :: front, text, rest, rfl, ?_⟩
      refine ⟨?_, .blank blank stands.before, stands.spelling, stands.after, ?_, stands.ends⟩
      · rw [stands.place, byteLength, Nat.add_assoc]
      · intro name isName d last
        cases front with
        | nil =>
            obtain rfl := Option.some.inj last
            exact isNameChar_eq_false_of_isBlank blank
        | cons e more => exact stands.begins name isName d (by simpa using last)
  | @token position u first cs result spelling ends cuts ih =>
      cases result with
      | error cause => contradiction
      | ok more =>
          have whole : ⟨position, u⟩ :: more = before ++ t :: after := Except.ok.inj whole
          cases before with
          | nil =>
              obtain ⟨rfl, rfl⟩ := List.cons.inj whole
              exact ⟨[], first, cs, rfl, rfl, .done, spelling, cuts.layout rfl, by simp, ends⟩
          | cons head before =>
              obtain ⟨rfl, rfl⟩ := List.cons.inj whole
              obtain ⟨front, text, rest, rfl, stands⟩ := ih rfl
              refine ⟨first ++ front, text, rest, (List.append_assoc ..).symm, ?_⟩
              refine ⟨?_, .behind spelling (fun name isName => (ends name isName).of_append)
                stands.before, stands.spelling, stands.after, ?_, stands.ends⟩
              · rw [stands.place, byteLength_append, Nat.add_assoc]
              · intro name isName d last
                rcases List.eq_nil_or_concat front with rfl | ⟨init, e, rfl⟩
                · rw [List.append_nil] at last
                  have named : (Token.name name).Spelling text := isName ▸ stands.spelling
                  exact spelling.isNameChar_getLast? named ends d last
                · exact stands.begins name isName d (by simpa using last)
  | broken => contradiction

/-! ### Where faults stand -/

/-- Tokens are cut off up to a place, and none at the place. -/
def BreaksOff (position : Nat) (cs : List Char) (error : SyntaxError) : Prop :=
  ∃ front rest ts, cs = front ++ rest ∧ Layout front ts ∧
    Broken (position + byteLength front) rest error

theorem Cuts.breaksOff {position : Nat} {cs : List Char} {result} (cuts : Cuts position cs result)
    {error : SyntaxError} (failed : result = .error error) : BreaksOff position cs error := by
  induction cuts with
  | done => contradiction
  | @blank position c cs result blank _ ih =>
      obtain ⟨front, rest, ts, rfl, layout, broken⟩ := ih failed
      refine ⟨c :: front, rest, ts, rfl, .blank blank layout, ?_⟩
      rwa [byteLength, ← Nat.add_assoc]
  | @token position t first cs result spelling ends _ ih =>
      cases result with
      | ok more => contradiction
      | error cause =>
          obtain ⟨front, rest, ts, rfl, layout, broken⟩ := ih failed
          refine ⟨first ++ front, rest, t :: ts, (List.append_assoc ..).symm, ?_, ?_⟩
          · exact .behind spelling (fun name isName => (ends name isName).of_append) layout
          · rwa [byteLength_append, ← Nat.add_assoc]
  | @broken position cs cause broken =>
      obtain rfl := Except.error.inj failed
      exact ⟨[], cs, [], rfl, .done, broken⟩

theorem Broken.stops {position : Nat} {rest : List Char} {error : SyntaxError}
    (broken : Broken position rest error) : Stops rest := by
  cases broken with
  | foreign _ _ noName _ => exact stops_cons noName
  | bracket _ _ _ => exact stops_cons (by decide)
  | unclosed _ => exact stops_cons (by decide)

theorem Broken.tokensFrom_eq {position : Nat} {rest : List Char} {error : SyntaxError}
    (broken : Broken position rest error) : tokensFrom position rest = .error error := by
  cases broken with
  | foreign noBlank noBracket noName noToken =>
      rw [tokensFrom]
      simp [noBlank, noBracket, noName, noToken]
  | @bracket blanks c rest inBrackets noBlank notClosed =>
      have stop : ∀ d, (c :: rest).head? = some d → Text.isBlank d = false := by
        intro d first
        obtain rfl : c = d := Option.some.inj first
        exact noBlank
      rw [tokensFrom]
      simp only [show Text.isBlank '[' = false by decide, Bool.false_eq_true, if_false, if_true,
        Text.takeWhile_run inBrackets stop]
      split
      · rename_i none
        rw [Text.dropWhile_run inBrackets stop] at none
        contradiction
      · rename_i d after found
        rw [Text.dropWhile_run inBrackets stop] at found
        obtain ⟨rfl, rfl⟩ := List.cons.inj found
        rw [if_neg notClosed, byteLength, Nat.add_assoc]
  | @unclosed blanks inBrackets =>
      have all : blanks.dropWhile Text.isBlank = [] := List.dropWhile_eq_nil_iff.mpr inBrackets
      rw [tokensFrom]
      simp only [show Text.isBlank '[' = false by decide, Bool.false_eq_true, if_false, if_true]
      split
      · rfl
      · rename_i d after found
        rw [all] at found
        contradiction

/-- Cutting fails with the first fault: at the place up to which a text is a layout. -/
theorem tokensFrom_eq_error_iff {position : Nat} {cs : List Char} {error : SyntaxError} :
    tokensFrom position cs = .error error ↔ BreaksOff position cs error := by
  constructor
  · intro failed
    exact (cuts_tokensFrom position cs).breaksOff failed
  · rintro ⟨front, rest, ts, rfl, layout, broken⟩
    obtain ⟨placed, -, cut⟩ := layout.tokensFrom_append broken.stops position
    rw [cut, broken.tokensFrom_eq]
    rfl

end AdapterGen.TypeDescriptor
