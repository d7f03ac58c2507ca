import AdapterGen.Proofs.TypeDescriptor.Lookahead

/-!
# Errors of the type syntax

An error points at the first token that stops the tokens from being the front
of a type: those before it go on to a type, and none goes on through it.

## Implementation notes

That nothing goes on through a token is shown of the reader: with the same
tokens up to that one it fails, whatever follows. The grammar derives nothing
then, since the reader finds all that it derives.

-/

namespace AdapterGen.TypeDescriptor

variable {α β : Type}

/-- The tokens are a front of what is derived, but not the whole. The rest can be spelled. -/
def Continues (derives : List Token → α → Prop) (ts : List Token) : Prop :=
  ∃ us a, us ≠ [] ∧ NamesSpelled us ∧ derives (ts ++ us) a

/-- The reader fails on the tokens, with any fuel that is enough. -/
def Refuses (read : Reader α) (fuel : Nat) (placed : List PlacedToken) : Prop :=
  ∀ more, fuel ≤ more → ∃ error, read more placed = .error error

/-- The first token is no pair of brackets. -/
def NoBrackets (placed : List PlacedToken) : Prop :=
  ∀ first, placed.head? = some first → first.token ≠ .dims

/-- What an error of a reader tells of the tokens that were read. -/
def Explains (derives : List Token → α → Prop) (read : Reader α) (fuel : Nat)
    (placed : List PlacedToken) : SyntaxError → Prop
  | .unexpected position found =>
      ∃ before t after, placed = before ++ ⟨position, t⟩ :: after ∧ found = t.text ∧
        Continues derives (spelled before) ∧
        ∀ others, Refuses read fuel (before ++ ⟨position, t⟩ :: others)
  | .unexpectedEnd => Continues derives (spelled placed)
  | .primitiveArgument kind =>
      ∃ before position after, placed = before ++ ⟨position, .name kind.keyword⟩ :: after ∧
        Continues derives (spelled before) ∧ NoBrackets after ∧
        ∀ others, NoBrackets others →
          Refuses read fuel (before ++ ⟨position, .name kind.keyword⟩ :: others)
  | .empty | .trailing _ _ => False

/-- What is derived goes on, behind some tokens, to what a larger part derives. -/
def Encloses (derives : List Token → α → Prop) (whole : List Token → β → Prop)
    (front : List Token) : Prop :=
  ∀ ts a, derives ts a → ∃ us b, NamesSpelled us ∧ whole (front ++ (ts ++ us)) b

theorem NamesSpelled.append {ts us : List Token} (left : NamesSpelled ts)
    (right : NamesSpelled us) : NamesSpelled (ts ++ us) := by
  intro name found
  rcases List.mem_append.mp found with inLeft | inRight
  · exact left name inLeft
  · exact right name inRight

theorem Continues.within {derives : List Token → α → Prop} {whole : List Token → β → Prop}
    {front ts : List Token} (goesOn : Continues derives ts)
    (encloses : Encloses derives whole front) : Continues whole (front ++ ts) := by
  obtain ⟨us, a, some, isSpelled, derived⟩ := goesOn
  obtain ⟨vs, b, alsoSpelled, derivedWhole⟩ := encloses _ a derived
  refine ⟨us ++ vs, b, by simp [some], isSpelled.append alsoSpelled, ?_⟩
  simpa using derivedWhole

/-- What an error of a part tells, it tells of the whole. -/
theorem Explains.within {derives : List Token → α → Prop} {whole : List Token → β → Prop}
    {read : Reader α} {reader : Reader β} {fuel enough : Nat} {front placed : List PlacedToken}
    {error : SyntaxError} (explained : Explains derives read fuel placed error)
    (encloses : Encloses derives whole (spelled front))
    (refuses : ∀ others, Refuses read fuel others → Refuses reader enough (front ++ others)) :
    Explains whole reader enough (front ++ placed) error := by
  have spelled_append (left right : List PlacedToken) :
      spelled (left ++ right) = spelled left ++ spelled right := List.map_append
  cases error with
  | unexpected position found =>
      obtain ⟨before, t, after, rfl, rfl, goesOn, refused⟩ := explained
      refine ⟨front ++ before, t, after, (List.append_assoc ..).symm, rfl, ?_, fun others => ?_⟩
      · rw [spelled_append]
        exact goesOn.within encloses
      · rw [List.append_assoc]
        exact refuses _ (refused others)
  | unexpectedEnd =>
      have goesOn : Continues derives (spelled placed) := explained
      change Continues whole (spelled (front ++ placed))
      rw [spelled_append]
      exact goesOn.within encloses
  | primitiveArgument kind =>
      obtain ⟨before, position, after, rfl, goesOn, bare, refused⟩ := explained
      refine ⟨front ++ before, position, after, (List.append_assoc ..).symm, ?_, bare,
        fun others bareOthers => ?_⟩
      · rw [spelled_append]
        exact goesOn.within encloses
      · rw [List.append_assoc]
        exact refuses _ (refused others bareOthers)
  | empty => exact explained
  | trailing => exact explained

/-! ### Readers behind others -/

theorem Refuses.andThen {read : Reader α} {next : α → Reader β} {fuel : Nat}
    {placed : List PlacedToken} (refused : Refuses read fuel placed) :
    Refuses (read.andThen next) fuel placed := by
  intro more enough
  obtain ⟨error, failed⟩ := refused more enough
  exact ⟨error, by rw [Reader.andThen, failed]; rfl⟩

theorem Refuses.behind {read inner : Reader α} {fuel enough : Nat} {t : PlacedToken}
    {placed : List PlacedToken} (refused : Refuses inner enough placed)
    (goesOn : read.GoesOn inner t fuel enough) : Refuses read fuel (t :: placed) := by
  intro more isEnough
  obtain ⟨m, isEnough, same⟩ := goesOn more isEnough
  rw [same]
  exact refused m isEnough

theorem Refuses.settled {read : Reader α} {next : α → Reader β} {fuel : Nat}
    {front placed : List PlacedToken} {a : α}
    (settles : Settles read fuel front a placed.head?) (refused : Refuses (next a) fuel placed) :
    Refuses (read.andThen next) fuel (front ++ placed) := by
  intro more enough
  obtain ⟨error, failed⟩ := refused more enough
  refine ⟨error, ?_⟩
  rw [Reader.andThen, settles more placed enough rfl]
  exact failed

/-! ### What goes on -/

theorem continues_nil (isArgument : Bool) : Continues (DerivesType isArgument) [] := by
  have valid : IsName "String" := isTypeName_iff.mp (by decide)
  have letters : ∀ c ∈ "String".toList, isNameChar c = true := List.all_eq_true.mp rfl
  refine ⟨[.name "String"], string, by simp, ?_,
    .named 0 (.reserved valid .string) (by simp [arrays])⟩
  intro name found
  obtain rfl : name = "String" := by simpa using found
  exact letters

/-- Brackets may always be put behind a type, and with them it is an argument too. -/
theorem continues_named {isArgument : Bool} {ts : List Token} {type : TypeDescriptor}
    (derived : DerivesNamed ts type) : Continues (DerivesType isArgument) ts := by
  refine ⟨[.dims], array type, by simp, by simp [NamesSpelled], ?_⟩
  exact .named 1 derived (by simp [arrays])

theorem continues_argument {ts : List Token} {arg : TypeDescriptor}
    (derived : DerivesType true ts arg) : Continues DerivesArguments ts :=
  ⟨[.greater], [arg], by simp, by simp [NamesSpelled], .last derived⟩

theorem encloses_upperBound :
    Encloses (DerivesType true) (DerivesType true) [.question, .name "extends"] := by
  intro ts bound derived
  refine ⟨[], wildcard bound, by simp [NamesSpelled], ?_⟩
  simpa using DerivesType.upperBound derived

theorem encloses_lowerBound :
    Encloses (DerivesType true) (DerivesType true) [.question, .name "super"] := by
  intro ts bound derived
  refine ⟨[], wildcard object, by simp [NamesSpelled], ?_⟩
  simpa using DerivesType.lowerBound derived

theorem encloses_generic {isArgument : Bool} {name : String} (valid : IsName name)
    (free : IsReference name) :
    Encloses DerivesArguments (DerivesType isArgument) [.name name, .less] := by
  intro ts args derived
  refine ⟨[], reference name args, by simp [NamesSpelled], ?_⟩
  have generic : DerivesType isArgument _ (arrays 0 (reference name args)) :=
    .named 0 (.generic valid free derived) (by simp [arrays])
  simpa [arrays] using generic

theorem encloses_first : Encloses (DerivesType true) DerivesArguments [] := by
  intro ts arg derived
  exact ⟨[.greater], [arg], by simp [NamesSpelled], .last derived⟩

theorem encloses_more {ts : List Token} {arg : TypeDescriptor} (derived : DerivesType true ts arg) :
    Encloses DerivesArguments DerivesArguments (ts ++ [.comma]) := by
  intro us args others
  refine ⟨[], arg :: args, by simp [NamesSpelled], ?_⟩
  simpa using DerivesArguments.more derived others

/-! ### The errors of the readers -/

theorem Refuses.succ {read inner : Reader α} {fuel : Nat} {placed : List PlacedToken}
    (refused : Refuses inner fuel placed)
    (same : ∀ fuel placed, read (fuel + 1) placed = inner fuel placed) :
    Refuses read (fuel + 1) placed := by
  intro more enough
  obtain ⟨m, rfl⟩ : ∃ m, more = m + 1 := ⟨more - 1, by omega⟩
  rw [same]
  exact refused m (by omega)

/-- Every error on as many tokens explains itself. -/
def Explained (derives : List Token → α → Prop) (read : Reader α) (fuel bound : Nat) : Prop :=
  ∀ placed error, placed.length ≤ bound → read fuel placed = .error error →
    Explains derives read fuel placed error

theorem explains_wildcard {fuel : Nat} (position : Nat) {placed : List PlacedToken}
    {error : SyntaxError}
    (explained : Explained (DerivesType true) (typeReader true) fuel fuel)
    (short : placed.length ≤ fuel)
    (failed : wildcardOf (typeReader true fuel) placed = .error error) :
    Explains (DerivesType true) (typeReader true) (fuel + 1)
      (⟨position, .question⟩ :: placed) error := by
  have refused (wrap : TypeDescriptor → TypeDescriptor) (at_ : Nat) (word : String)
      (same : ∀ more others, wildcardOf (typeReader true more) (⟨at_, .name word⟩ :: others) =
        Reader.andThen (typeReader true) (fun bound => Reader.give (wrap bound)) more others)
      (others : List PlacedToken) (inBound : Refuses (typeReader true) fuel others) :
      Refuses (typeReader true) (fuel + 1)
        ([⟨position, .question⟩, ⟨at_, .name word⟩] ++ others) := by
    have behindWord : Refuses (fun more => wildcardOf (typeReader true more)) fuel
        (⟨at_, .name word⟩ :: others) :=
      inBound.andThen.behind fun more enough => ⟨more, enough, same more⟩
    exact behindWord.behind (goesOn_question position fuel)
  rcases wildcardOf_cases placed with ⟨at_, inner, rfl⟩ | ⟨at_, inner, rfl⟩ | alike
  · rcases bind_eq_error_iff.mp failed with failed | ⟨_, _, impossible⟩
    · have explains := explained inner error (by simp at short; omega) failed
      exact explains.within encloses_upperBound (refused wildcard at_ "extends" fun _ _ => rfl)
    · contradiction
  · rcases bind_eq_error_iff.mp failed with failed | ⟨_, _, impossible⟩
    · have explains := explained inner error (by simp at short; omega) failed
      exact explains.within encloses_lowerBound
        (refused (fun _ => wildcard object) at_ "super" fun _ _ => rfl)
    · contradiction
  · rw [alike _ placed rfl] at failed
    contradiction

theorem takeDims_of_noBrackets {placed : List PlacedToken} (bare : NoBrackets placed)
    (type : TypeDescriptor) : takeDims type placed = (type, placed) := by
  match placed with
  | [] => rfl
  | ⟨_, .dims⟩ :: _ => exact absurd rfl (bare _ rfl)
  | ⟨_, .name _⟩ :: _ | ⟨_, .less⟩ :: _ | ⟨_, .greater⟩ :: _ | ⟨_, .comma⟩ :: _
  | ⟨_, .question⟩ :: _ => rfl

/-- A type is a bare primitive behind its brackets when it has none. -/
theorem noBrackets_of_takeDims {base : TypeDescriptor} {placed rest : List PlacedToken}
    {kind : PrimitiveKind} (taken : takeDims base placed = (primitive kind, rest)) :
    base = primitive kind ∧ NoBrackets placed := by
  match placed with
  | [] => exact ⟨(Prod.mk.inj taken).1, by simp [NoBrackets]⟩
  | ⟨position, .dims⟩ :: more =>
      have taken : takeDims (array base) more = (primitive kind, rest) := taken
      obtain ⟨levels, -, -, -, same⟩ := takeDims_eq taken
      change primitive kind = arrays (levels + 1) base at same
      rw [arrays_succ] at same
      contradiction
  | ⟨_, .name _⟩ :: _ | ⟨_, .less⟩ :: _ | ⟨_, .greater⟩ :: _ | ⟨_, .comma⟩ :: _
  | ⟨_, .question⟩ :: _ => exact ⟨(Prod.mk.inj taken).1, by simp [NoBrackets]⟩

theorem Reserved.eq_keyword {name : String} {kind : PrimitiveKind}
    (reserved : Reserved name (primitive kind)) : name = kind.keyword := by
  cases reserved
  rfl

section Named

variable {fuel position : Nat} {name : String} {placed : List PlacedToken} {isArgument : Bool}

/-- What the reader of a name refuses, the reader of the type refuses behind the name. -/
theorem refuses_named
    (failed : ∀ more, ∃ error, namedOf (parseArguments more) position name placed = .error error) :
    Refuses (typeReader isArgument) (fuel + 1) (⟨position, .name name⟩ :: placed) := by
  have refused : Refuses (fun more => namedOf (parseArguments more) position name) fuel placed :=
    fun more _ => failed more
  exact refused.andThen.behind (goesOn_name isArgument position name fuel)

theorem explains_name {error : SyntaxError}
    (explained : ∀ inner error, inner.length < fuel →
      parseArguments fuel inner = .error error →
        Explains DerivesArguments parseArguments fuel inner error)
    (short : placed.length ≤ fuel)
    (failed : namedOf (parseArguments fuel) position name placed = .error error) :
    Explains (DerivesType isArgument) (typeReader isArgument) (fuel + 1)
      (⟨position, .name name⟩ :: placed) error := by
  cases nameCase name placed with
  | invalid invalid =>
      rw [namedOf_of_not_isName invalid] at failed
      obtain rfl := Except.error.inj failed
      refine ⟨[], .name name, placed, rfl, rfl, continues_nil isArgument, ?_⟩
      intro others
      apply refuses_named
      intro more
      exact ⟨_, namedOf_of_not_isName invalid others⟩
  | bare valid noArguments =>
      rw [namedOf_bare valid noArguments] at failed
      contradiction
  | @generic opening inner valid free =>
      rw [namedOf_less_of_isReference valid free] at failed
      rcases bind_eq_error_iff.mp failed with failed | ⟨_, _, impossible⟩
      · have explains := explained inner error (by simp at short; omega) failed
        have encloses : Encloses DerivesArguments (DerivesType isArgument)
            (spelled [⟨position, .name name⟩, ⟨opening, .less⟩]) := encloses_generic valid free
        apply explains.within encloses
        intro others refused
        have arguments : Refuses (Reader.andThen parseArguments fun args =>
            Reader.give (reference name args)) fuel others := refused.andThen
        have generic : Refuses (fun more => namedOf (parseArguments more) position name) fuel
            (⟨opening, .less⟩ :: others) := by
          apply arguments.behind
          intro more enough
          exact ⟨more, enough, namedOf_less_of_isReference valid free⟩
        exact generic.andThen.behind (goesOn_name isArgument position name fuel)
      · contradiction
  | @reserved opening inner valid taken =>
      rw [namedOf_less_of_reserved valid taken] at failed
      obtain rfl := Except.error.inj failed
      refine ⟨[⟨position, .name name⟩], .less, inner, rfl, rfl, continues_named (.ofName valid), ?_⟩
      intro others
      apply refuses_named
      intro more
      exact ⟨_, namedOf_less_of_reserved valid taken others⟩

/-- The brackets behind a type are refused only when there are none and the type is a primitive in
argument position. -/
theorem bracketsOf_eq_error {base : TypeDescriptor} {middle : List PlacedToken}
    {error : SyntaxError} (failed : bracketsOf isArgument base fuel middle = .error error) :
    ∃ kind, isArgument = true ∧ base = primitive kind ∧ NoBrackets middle ∧
      error = .primitiveArgument kind := by
  rcases bind_eq_error_iff.mp failed with refused | ⟨_, _, impossible⟩
  · unfold checkArgument at refused
    split at refused
    · rename_i kind isPrimitive
      have taken : takeDims base middle = (primitive kind, (takeDims base middle).2) :=
        Prod.ext isPrimitive rfl
      obtain ⟨isBase, bare⟩ := noBrackets_of_takeDims taken
      exact ⟨kind, rfl, isBase, bare, (Except.error.inj refused).symm⟩
    · contradiction
  · contradiction

/-- A name that is read as a primitive is the keyword, and nothing behind it is taken. -/
theorem keyword_of_namedOf {kind : PrimitiveKind} {middle : List PlacedToken}
    (read : namedOf (parseArguments fuel) position name placed = .ok (primitive kind, middle)) :
    name = kind.keyword ∧ placed = middle := by
  cases nameCase name placed with
  | invalid invalid =>
      rw [namedOf_of_not_isName invalid] at read
      contradiction
  | bare valid noArguments =>
      rw [namedOf_bare valid noArguments] at read
      obtain ⟨denoted, same⟩ := Prod.mk.inj (Except.ok.inj read)
      rcases reserved_or_isReference name with reserved | free
      · rw [denoted] at reserved
        exact ⟨reserved.eq_keyword, same⟩
      · rw [ofName_of_isReference free] at denoted
        contradiction
  | generic valid free =>
      rw [namedOf_less_of_isReference valid free] at read
      obtain ⟨_, _, same⟩ := bind_eq_ok_iff.mp read
      cases Except.ok.inj same
  | reserved valid taken =>
      rw [namedOf_less_of_reserved valid taken] at read
      contradiction

/-- The keyword of a primitive is refused in argument position, whatever follows but brackets. -/
theorem refuses_keyword (kind : PrimitiveKind) (bare : NoBrackets placed) :
    Refuses (typeReader true) (fuel + 1) (⟨position, .name kind.keyword⟩ :: placed) := by
  have valid : IsName kind.keyword := isTypeName_iff.mp (by cases kind <;> decide)
  have denoted : ofName kind.keyword = primitive kind := ofName_of_reserved (.keyword kind)
  have taken : ¬ IsReference kind.keyword := fun free => free _ (.keyword kind)
  have behindName : Refuses (Reader.andThen
      (fun more => namedOf (parseArguments more) position kind.keyword) (bracketsOf true))
      fuel placed := by
    rcases less_or_noArguments placed with ⟨opening, inner, rfl⟩ | noArguments
    · apply Refuses.andThen
      intro more _
      exact ⟨_, namedOf_less_of_reserved valid taken inner⟩
    · have settles : Settles (fun more => namedOf (parseArguments more) position kind.keyword)
          fuel [] (primitive kind) placed.head? := by
        intro more rest _ same
        have noneOfRest : NoArguments rest := fun first isFirst =>
          noArguments first (same.symm.trans isFirst)
        rw [← denoted]
        exact namedOf_bare valid noneOfRest
      apply Refuses.settled settles
      intro more _
      refine ⟨.primitiveArgument kind, ?_⟩
      rw [bracketsOf, takeDims_of_noBrackets bare]
      rfl
  exact behindName.behind (goesOn_name true position kind.keyword fuel)

theorem explains_brackets {base : TypeDescriptor} {middle : List PlacedToken} {error : SyntaxError}
    (read : namedOf (parseArguments fuel) position name placed = .ok (base, middle))
    (failed : bracketsOf isArgument base fuel middle = .error error) :
    Explains (DerivesType isArgument) (typeReader isArgument) (fuel + 1)
      (⟨position, .name name⟩ :: placed) error := by
  obtain ⟨kind, rfl, rfl, bare, rfl⟩ := bracketsOf_eq_error failed
  obtain ⟨rfl, rfl⟩ := keyword_of_namedOf read
  exact ⟨[], position, placed, rfl, continues_nil true, bare, fun _ bareOthers =>
    refuses_keyword kind bareOthers⟩

end Named

theorem exists_front {fuel : Nat} {isArgument : Bool} {placed rest : List PlacedToken}
    {type : TypeDescriptor} (read : parseType fuel isArgument placed = .ok (type, rest)) :
    ∃ front, placed = front ++ rest ∧ DerivesType isArgument (spelled front) type ∧
      Settles (typeReader isArgument) fuel front type rest.head? := by
  obtain ⟨used, rfl, derived⟩ := (readers_derive fuel).1 isArgument read
  obtain ⟨front, same, settles⟩ := (readers_lookAhead fuel).1 isArgument _ _ _ read
  obtain rfl := List.append_cancel_right same
  exact ⟨used, rfl, derived, settles⟩

theorem explains_afterArgument {fuel : Nat} {front middle : List PlacedToken}
    {arg : TypeDescriptor} {error : SyntaxError}
    (explained : ∀ inner error, inner.length < fuel →
      parseArguments fuel inner = .error error →
        Explains DerivesArguments parseArguments fuel inner error)
    (short : middle.length ≤ fuel) (derived : DerivesType true (spelled front) arg)
    (settles : Settles (typeReader true) fuel front arg middle.head?)
    (failed : afterArgument parseArguments arg fuel middle = .error error) :
    Explains DerivesArguments parseArguments (fuel + 1) (front ++ middle) error := by
  have stops {t : PlacedToken} {inner : List PlacedToken} (isNext : middle = t :: inner)
      (refused : ∀ more others, afterArgument parseArguments arg more (t :: others) =
        .error (.unexpected t.position t.token.text))
      (isError : error = .unexpected t.position t.token.text) :
      Explains DerivesArguments parseArguments (fuel + 1) (front ++ middle) error := by
    subst isNext isError
    refine ⟨front, t.token, inner, rfl, rfl, continues_argument derived, fun others => ?_⟩
    have settled : Refuses (Reader.andThen (typeReader true) (afterArgument parseArguments)) fuel
        (front ++ t :: others) :=
      Refuses.settled settles fun more _ => ⟨_, refused more others⟩
    exact settled.succ parseArguments_succ
  match middle with
  | [] =>
      obtain rfl := Except.error.inj failed
      rw [List.append_nil]
      exact continues_argument derived
  | ⟨position, .greater⟩ :: after => contradiction
  | ⟨position, .comma⟩ :: more =>
      rcases bind_eq_error_iff.mp failed with failed | ⟨_, _, impossible⟩
      · have explains := explained more error (by simp at short; omega) failed
        have encloses := encloses_more derived
        rw [show spelled front ++ [.comma] = spelled (front ++ [⟨position, .comma⟩]) by
          simp [spelled]] at encloses
        have whole : Explains DerivesArguments parseArguments (fuel + 1)
            (front ++ [⟨position, .comma⟩] ++ more) error := by
          apply explains.within encloses
          intro others refused
          rw [List.append_assoc, List.singleton_append]
          have arguments : Refuses (Reader.andThen parseArguments fun args =>
              Reader.give (arg :: args)) fuel others := refused.andThen
          have behindComma : Refuses (afterArgument parseArguments arg) fuel
              (⟨position, .comma⟩ :: others) := by
            apply arguments.behind
            intro more enough
            exact ⟨more, enough, fun _ => rfl⟩
          have settled : Refuses
              (Reader.andThen (typeReader true) (afterArgument parseArguments)) fuel
              (front ++ ⟨position, .comma⟩ :: others) := Refuses.settled settles behindComma
          exact settled.succ parseArguments_succ
        rwa [List.append_assoc] at whole
      · contradiction
  | ⟨_, .name _⟩ :: inner | ⟨_, .less⟩ :: inner | ⟨_, .question⟩ :: inner
  | ⟨_, .dims⟩ :: inner =>
      exact stops rfl (fun _ _ => rfl) (Except.error.inj failed).symm

/-- A token that begins no type is refused as the first one. -/
theorem explains_first {fuel : Nat} {isArgument : Bool} {t : PlacedToken}
    {inner : List PlacedToken}
    (refused : ∀ more others, typeReader isArgument (more + 1) (t :: others) =
      .error (.unexpected t.position t.token.text)) :
    Explains (DerivesType isArgument) (typeReader isArgument) (fuel + 1) (t :: inner)
      (.unexpected t.position t.token.text) := by
  refine ⟨[], t.token, inner, rfl, rfl, continues_nil isArgument, ?_⟩
  intro others more enough
  obtain ⟨m, rfl⟩ : ∃ m, more = m + 1 := ⟨more - 1, by omega⟩
  exact ⟨_, refused m others⟩

/-- Every error of the two readers explains itself. -/
theorem readers_explained (fuel : Nat) :
    (∀ isArgument, Explained (DerivesType isArgument) (typeReader isArgument) fuel fuel) ∧
      ∀ inner error, inner.length < fuel → parseArguments fuel inner = .error error →
        Explains DerivesArguments parseArguments fuel inner error := by
  induction fuel with
  | zero =>
      constructor
      · intro isArgument placed error short failed
        obtain rfl := List.length_eq_zero_iff.mp (Nat.le_zero.mp short)
        obtain rfl := Except.error.inj failed
        exact continues_nil isArgument
      · intro inner error short
        exact absurd short (Nat.not_lt_zero _)
  | succ fuel ih =>
      obtain ⟨explainedType, explainedArguments⟩ := ih
      constructor
      · intro isArgument placed error short failed
        match placed with
        | [] =>
            obtain rfl := Except.error.inj failed
            exact continues_nil isArgument
        | ⟨position, .question⟩ :: inner =>
            cases isArgument with
            | false =>
                obtain rfl := Except.error.inj failed
                exact explains_first fun _ _ => rfl
            | true =>
                have short : inner.length ≤ fuel := by simp at short; omega
                exact explains_wildcard position (explainedType true) short failed
        | ⟨position, .name name⟩ :: inner =>
            have short : inner.length ≤ fuel := by simp at short; omega
            rcases bind_eq_error_iff.mp failed with failed | ⟨⟨base, middle⟩, read, failed⟩
            · exact explains_name explainedArguments short failed
            · exact explains_brackets read failed
        | ⟨_, .less⟩ :: inner | ⟨_, .greater⟩ :: inner | ⟨_, .comma⟩ :: inner
        | ⟨_, .dims⟩ :: inner =>
            obtain rfl := Except.error.inj failed
            exact explains_first fun _ _ => rfl
      · intro inner error short failed
        rcases bind_eq_error_iff.mp failed with inFirst | ⟨⟨arg, middle⟩, read, behind⟩
        · have explains := explainedType true inner error (by omega) inFirst
          have encloses : Encloses (DerivesType true) DerivesArguments (spelled []) :=
            encloses_first
          have whole : Explains DerivesArguments parseArguments (fuel + 1) ([] ++ inner) error := by
            apply explains.within encloses
            intro others refused
            have first : Refuses
                (Reader.andThen (typeReader true) (afterArgument parseArguments)) fuel others :=
              refused.andThen
            exact first.succ parseArguments_succ
          exact whole
        · obtain ⟨front, rfl, derived, settles⟩ := exists_front read
          have shorter : middle.length ≤ fuel := by
            rw [List.length_append] at short
            omega
          exact explains_afterArgument explainedArguments shorter derived settles behind

end AdapterGen.TypeDescriptor
