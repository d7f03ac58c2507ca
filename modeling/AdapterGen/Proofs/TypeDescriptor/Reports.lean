import AdapterGen.Proofs.TypeDescriptor.Faults

/-!
# What the error on a text reports

The reported text stands at the reported byte. The tokens in front of it go on
to a type, and no tokens through it do.

## Implementation notes

A text that cannot be cut into tokens is reported at its first fault, whatever
the grammar derives. A single character is reported there, for no token is cut.
What an error tells of the tokens is stated of texts that can be cut.

-/

namespace AdapterGen.TypeDescriptor

/-- The tokens derive a type. -/
def IsType (ts : List Token) : Prop := ∃ type, DerivesType false ts type

/-- The token stands in the text, which consists of the others in front of it and behind it. -/
def StandsAt (input : String) (before : List Token) (t : PlacedToken) (after : List Token) : Prop :=
  ∃ front text rest, input.toList = front ++ (text ++ rest) ∧
    StandsIn 0 before t after front text rest

/-- The reported text stands in the text at the byte. Array brackets may have blanks in them. -/
def ReportedAt (input : String) (position : Nat) (found : String) : Prop :=
  ∃ front text rest : String, input = front ++ text ++ rest ∧ front.utf8ByteSize = position ∧
    text ≠ "" ∧ (text = found ∨ found = "[]" ∧ ∃ blanks : List Char,
      (∀ c ∈ blanks, Text.isBlank c = true) ∧ text.toList = '[' :: (blanks ++ [']']))

/-- What an error on a text tells of the tokens of the text. -/
def Tells (input : String) (ts : List Token) : SyntaxError → Prop
  | .empty => ts = []
  | .unexpectedEnd => Continues (DerivesType false) ts
  | .unexpected position found =>
      ∃ before t after, ts = before ++ t :: after ∧ found = t.text ∧
        StandsAt input before ⟨position, t⟩ after ∧ Continues (DerivesType false) before ∧
        ∀ us, ¬ IsType (before ++ t :: us)
  | .trailing position found =>
      ∃ before t after, ts = before ++ t :: after ∧ found = t.text ∧
        StandsAt input before ⟨position, t⟩ after ∧ IsType before ∧
        ∀ us, ¬ IsType (before ++ t :: us)
  | .primitiveArgument kind =>
      ∃ before after, ts = before ++ .name kind.keyword :: after ∧
        Continues (DerivesType false) before ∧ after.head? ≠ some .dims ∧
        ∀ us, us.head? ≠ some .dims → ¬ IsType (before ++ .name kind.keyword :: us)

/-! ### What is not derived -/

theorem Refuses.not_derives {isArgument : Bool} {fuel : Nat} {placed : List PlacedToken}
    (refused : Refuses (typeReader isArgument) fuel placed) (type : TypeDescriptor) :
    ¬ DerivesType isArgument (spelled placed) type := by
  intro derived
  -- With fuel for both, the reader would fail on the tokens and find the type.
  let enough := max fuel placed.length
  have found := (readers_find enough).1 isArgument [] (by simp [Closes]) (le_max_right ..) derived
  obtain ⟨error, failed⟩ := refused enough (le_max_left ..)
  rw [List.append_nil] at found
  cases failed.symm.trans found

theorem Settles.not_derives {isArgument : Bool} {fuel : Nat} {front : List PlacedToken}
    {t : PlacedToken} {type : TypeDescriptor}
    (settles : Settles (typeReader isArgument) fuel front type (some t))
    (rest : List PlacedToken) (other : TypeDescriptor) :
    ¬ DerivesType isArgument (spelled (front ++ t :: rest)) other := by
  intro derived
  let enough := max fuel (front ++ t :: rest).length
  have found := (readers_find enough).1 isArgument [] (by simp [Closes]) (le_max_right ..) derived
  have settled := settles enough (t :: rest) (le_max_left ..) rfl
  rw [List.append_nil] at found
  obtain ⟨-, impossible⟩ := Prod.mk.inj (Except.ok.inj (settled.symm.trans found))
  contradiction

/-- Tokens that stand nowhere in particular. -/
def unplacedAs (ts : List Token) : List PlacedToken := ts.map fun t => ⟨0, t⟩

theorem spelled_behind (before : List PlacedToken) (t : PlacedToken) (us : List Token) :
    spelled (before ++ t :: unplacedAs us) = spelled before ++ t.token :: us := by
  simp [spelled, unplacedAs, Function.comp_def]

/-! ### The errors on cut tokens -/

theorem ofTokens_eq_error_cases {placed : List PlacedToken} {error : SyntaxError}
    (failed : ofTokens placed = .error error) :
    placed = [] ∧ error = .empty ∨
    parseType (placed.length + 1) false placed = .error error ∨
    ∃ type t after, parseType (placed.length + 1) false placed = .ok (type, t :: after) ∧
      error = .trailing t.position t.token.text := by
  cases placed with
  | nil => exact .inl ⟨rfl, (Except.error.inj failed).symm⟩
  | cons first more =>
      rcases bind_eq_error_iff.mp failed with inType | ⟨⟨type, rest⟩, read, behind⟩
      · exact .inr (.inl inType)
      · cases rest with
        | nil => contradiction
        | cons t after => exact .inr (.inr ⟨type, t, after, read, (Except.error.inj behind).symm⟩)

theorem standsAt_of_tokens {input : String} {before after : List PlacedToken} {t : PlacedToken}
    (cut : tokens input = .ok (before ++ t :: after)) :
    StandsAt input (spelled before) t (spelled after) :=
  (cuts_tokensFrom 0 input.toList).exists_standsIn cut

theorem Explains.tells {input : String} {placed : List PlacedToken} {error : SyntaxError}
    {fuel : Nat} (cut : tokens input = .ok placed)
    (explained : Explains (DerivesType false) (typeReader false) fuel placed error) :
    Tells input (spelled placed) error := by
  cases error with
  | empty | trailing => exact explained.elim
  | unexpectedEnd => exact explained
  | unexpected position found =>
      obtain ⟨before, t, after, rfl, isText, goesOn, refused⟩ := explained
      refine ⟨spelled before, t, spelled after, List.map_append, isText, standsAt_of_tokens cut,
        goesOn, ?_⟩
      rintro us ⟨type, derived⟩
      have dead := (refused (unplacedAs us)).not_derives type
      rw [spelled_behind] at dead
      exact dead derived
  | primitiveArgument kind =>
      obtain ⟨before, position, after, rfl, goesOn, bare, refused⟩ := explained
      refine ⟨spelled before, spelled after, List.map_append, goesOn, ?_, ?_⟩
      · intro isDims
        obtain ⟨next, isNext, same⟩ := Option.map_eq_some_iff.mp (List.head?_map ▸ isDims)
        exact bare next isNext same
      · rintro us noDims ⟨type, derived⟩
        have bareOthers : NoBrackets (unplacedAs us) := by
          intro next isNext same
          obtain ⟨u, isFirst, rfl⟩ := Option.map_eq_some_iff.mp (List.head?_map ▸ isNext)
          exact noDims (same ▸ isFirst)
        have dead := (refused (unplacedAs us) bareOthers).not_derives type
        rw [spelled_behind] at dead
        exact dead derived

/-- The error on a text that is cut into tokens. -/
theorem tells_of_parse_eq_error {input : String} {ts : List Token} {error : SyntaxError}
    (layout : Layout input.toList ts) (failed : parse input = .error error) :
    Tells input ts error := by
  obtain ⟨placed, cut, rfl⟩ := layout.exists_tokensFrom 0
  change tokens input = .ok placed at cut
  have failed : ofTokens placed = .error error := by
    rw [← failed, parse, cut]
    rfl
  rcases ofTokens_eq_error_cases failed with ⟨rfl, rfl⟩ | inType | ⟨type, t, after, read, rfl⟩
  · rfl
  · exact ((readers_explained _).1 false placed error (Nat.le_succ _) inType).tells cut
  · obtain ⟨front, rfl, derived, settles⟩ := exists_front read
    refine ⟨spelled front, t.token, spelled after, List.map_append, rfl, standsAt_of_tokens cut,
      ⟨type, derived⟩, ?_⟩
    rintro us ⟨other, derivedThrough⟩
    have dead := settles.not_derives (unplacedAs us) other
    rw [spelled_behind] at dead
    exact dead derivedThrough

/-! ### The errors on any text -/

theorem parse_eq_error_of_tokens {input : String} {error : SyntaxError}
    (failed : tokens input = .error error) : parse input = .error error := by
  rw [parse, failed]
  rfl

theorem exists_layout_or_breaksOff (input : String) :
    (∃ ts, Layout input.toList ts) ∨ ∃ error, tokens input = .error error ∧
      BreaksOff 0 input.toList error := by
  rcases cut : tokens input with error | placed
  · exact .inr ⟨error, rfl, tokensFrom_eq_error_iff.mp cut⟩
  · exact .inl ⟨_, layout_of_tokensFrom cut⟩

theorem layout_nil_iff {cs : List Char} :
    Layout cs [] ↔ ∀ c ∈ cs, Text.isBlank c = true := by
  constructor
  · intro layout
    generalize none : ([] : List Token) = ts at layout
    induction layout with
    | done => simp
    | blank blank _ ih => exact List.forall_mem_cons.mpr ⟨blank, ih none⟩
    | symbol | dims | name => contradiction
  · intro blanks
    induction cs with
    | nil => exact .done
    | cons c cs ih =>
        obtain ⟨blank, others⟩ := List.forall_mem_cons.mp blanks
        exact .blank blank (ih others)

theorem not_breaksOff_empty {position : Nat} {cs : List Char} :
    ¬ BreaksOff position cs .empty := by
  rintro ⟨front, rest, ts, -, -, broken⟩
  cases broken

theorem parse_eq_empty_iff {input : String} :
    parse input = .error .empty ↔ ∀ c ∈ input.toList, Text.isBlank c = true := by
  rw [← layout_nil_iff]
  constructor
  · intro failed
    rcases exists_layout_or_breaksOff input with ⟨ts, layout⟩ | ⟨error, cut, broken⟩
    · obtain rfl : ts = [] := tells_of_parse_eq_error layout failed
      exact layout
    · obtain rfl := Except.error.inj ((parse_eq_error_of_tokens cut).symm.trans failed)
      exact absurd broken not_breaksOff_empty
  · intro layout
    obtain ⟨placed, cut, none⟩ := layout.exists_tokensFrom 0
    obtain rfl : placed = [] := List.map_eq_nil_iff.mp none
    rw [parse, tokens, cut]
    rfl

theorem reportedAt_of_chars {input found : String} {position : Nat} (front text rest : List Char)
    (isSplit : input.toList = front ++ (text ++ rest)) (place : byteLength front = position)
    (nonempty : text ≠ []) (isFound : String.ofList text = found ∨ found = "[]" ∧
      ∃ blanks : List Char, (∀ c ∈ blanks, Text.isBlank c = true) ∧
        text = '[' :: (blanks ++ [']'])) : ReportedAt input position found := by
  refine ⟨String.ofList front, String.ofList text, String.ofList rest, ?_, ?_, ?_, ?_⟩
  · rw [← String.ofList_toList (s := input), isSplit, String.ofList_append, String.ofList_append,
      String.append_assoc]
  · rw [utf8ByteSize_ofList, place]
  · simpa using nonempty
  · simpa using isFound

theorem StandsAt.reportedAt {input : String} {before after : List Token} {t : PlacedToken}
    (stands : StandsAt input before t after) : ReportedAt input t.position t.token.text := by
  obtain ⟨position, token⟩ := t
  obtain ⟨front, text, rest, isSplit, ⟨place, -, spelling, -, -, -⟩⟩ := stands
  rw [Nat.zero_add] at place
  apply reportedAt_of_chars front text rest isSplit place.symm spelling.ne_nil
  cases spelling with
  | symbol spelled =>
      have isText := (Token.text_of_ofChar? spelled).1
      exact .inl (String.toList_inj.mp (by rw [String.toList_ofList, isText]))
  | dims inBrackets => exact .inr ⟨rfl, _, inBrackets, rfl⟩
  | name _ _ => exact .inl rfl

theorem BreaksOff.reportedAt {input found : String} {position : Nat}
    (broken : BreaksOff 0 input.toList (.unexpected position found)) :
    ReportedAt input position found := by
  obtain ⟨front, rest, ts, isSplit, -, broken⟩ := broken
  generalize isError : SyntaxError.unexpected position found = error at broken
  cases broken with
  | foreign =>
      obtain ⟨rfl, rfl⟩ := SyntaxError.unexpected.inj isError
      exact reportedAt_of_chars front [_] _ isSplit (Nat.zero_add _).symm (by simp) (.inl rfl)
  | @bracket blanks c rest =>
      obtain ⟨rfl, rfl⟩ := SyntaxError.unexpected.inj isError
      refine reportedAt_of_chars (front ++ '[' :: blanks) [c] rest ?_ ?_ (by simp) (.inl rfl)
      · simpa using isSplit
      · rw [byteLength_append, Nat.zero_add]
  | unclosed => contradiction

theorem not_breaksOff_trailing {position at_ : Nat} {found : String} {cs : List Char} :
    ¬ BreaksOff position cs (.trailing at_ found) := by
  rintro ⟨front, rest, ts, -, -, broken⟩
  cases broken

theorem reportedAt_of_parse {input found : String} {position : Nat}
    (failed : parse input = .error (.unexpected position found) ∨
      parse input = .error (.trailing position found)) : ReportedAt input position found := by
  rcases exists_layout_or_breaksOff input with ⟨ts, layout⟩ | ⟨error, cut, broken⟩
  · rcases failed with failed | failed
    · obtain ⟨before, t, after, -, rfl, stands, -⟩ := tells_of_parse_eq_error layout failed
      exact stands.reportedAt
    · obtain ⟨before, t, after, -, rfl, stands, -⟩ := tells_of_parse_eq_error layout failed
      exact stands.reportedAt
  · rw [parse_eq_error_of_tokens cut] at failed
    rcases failed with failed | failed
    · obtain rfl := Except.error.inj failed
      exact broken.reportedAt
    · obtain rfl := Except.error.inj failed
      exact absurd broken not_breaksOff_trailing

/-- Positions count bytes, and of a fault in brackets one character is reported. -/
example : parse "List<é xs>" = .error (.unexpected 8 "xs") ∧
    parse "List<é [ xs>" = .error (.unexpected 10 "x") := by decide +kernel

/-- Every error on a text points at the first token that cannot stand there. Blanks alone are an
empty type. A reported text stands at its byte. A text that cannot be cut into tokens is reported at
its one first fault. On a text that can, the error tells how the tokens in front of the reported one
go on, and that no tokens through it do. -/
theorem parse_error_points_at_first_fault (input : String) :
    (parse input = .error .empty ↔ ∀ c ∈ input.toList, Text.isBlank c = true) ∧
    (∀ position found, parse input = .error (.unexpected position found) ∨
      parse input = .error (.trailing position found) → ReportedAt input position found) ∧
    ((¬ ∃ ts, Layout input.toList ts) → ∃ error, parse input = .error error ∧
      ∀ other, BreaksOff 0 input.toList other ↔ other = error) ∧
    (∀ ts error, Layout input.toList ts → parse input = .error error → Tells input ts error) := by
  refine ⟨parse_eq_empty_iff, fun _ _ => reportedAt_of_parse, ?_,
    fun _ _ => tells_of_parse_eq_error⟩
  intro noTokens
  rcases exists_layout_or_breaksOff input with layout | ⟨error, cut, broken⟩
  · exact absurd layout noTokens
  · refine ⟨error, parse_eq_error_of_tokens cut, fun other => ?_⟩
    constructor
    · intro alsoBroken
      exact Except.error.inj ((tokensFrom_eq_error_iff.mpr alsoBroken).symm.trans cut)
    · rintro rfl
      exact broken

end AdapterGen.TypeDescriptor
