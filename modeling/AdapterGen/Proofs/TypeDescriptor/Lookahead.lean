import AdapterGen.Proofs.TypeDescriptor.RoundTrip

/-!
# One token of lookahead

What a reader gives was read from a front of the tokens, and of the tokens
behind that front it has looked at the first one at most. It reads the same
from any tokens that begin so, with the same fuel or with more.

-/

namespace AdapterGen.TypeDescriptor

variable {α β : Type}

/-- A reader of the front of a token list, for each amount of fuel. -/
abbrev Reader (α : Type) :=
  Nat → List PlacedToken → Except SyntaxError (α × List PlacedToken)

namespace Reader

/-- Takes no token. -/
def give (a : α) : Reader α := fun _ placed => .ok (a, placed)

/-- One reader and then another. -/
def andThen (read : Reader α) (next : α → Reader β) : Reader β := fun fuel placed =>
  read fuel placed >>= fun result => next result.1 fuel result.2

/-- With any fuel that is enough, a reader behind a token does as another reader. -/
def GoesOn (read inner : Reader α) (t : PlacedToken) (fuel enough : Nat) : Prop :=
  ∀ more, fuel ≤ more → ∃ m, enough ≤ m ∧ ∀ placed, read more (t :: placed) = inner m placed

end Reader

/-- Whatever follows the first token behind the front, the front is read alike. -/
def Settles (read : Reader α) (fuel : Nat) (front : List PlacedToken) (a : α)
    (next : Option PlacedToken) : Prop :=
  ∀ more rest, fuel ≤ more → rest.head? = next → read more (front ++ rest) = .ok (a, rest)

/-- A reader that looks one token ahead. -/
def LooksAhead (read : Reader α) (fuel : Nat) : Prop :=
  ∀ placed rest a, read fuel placed = .ok (a, rest) →
    ∃ front, placed = front ++ rest ∧ Settles read fuel front a rest.head?

theorem looksAhead_give (a : α) (fuel : Nat) : LooksAhead (Reader.give a) fuel := by
  intro placed rest b done
  obtain ⟨rfl, rfl⟩ := Prod.mk.inj (Except.ok.inj done)
  exact ⟨[], rfl, fun _ _ _ _ => rfl⟩

theorem LooksAhead.andThen {read : Reader α} {next : α → Reader β} {fuel : Nat}
    (first : LooksAhead read fuel) (second : ∀ a, LooksAhead (next a) fuel) :
    LooksAhead (read.andThen next) fuel := by
  intro placed rest b done
  obtain ⟨⟨a, middle⟩, readFirst, readSecond⟩ := bind_eq_ok_iff.mp done
  obtain ⟨front, rfl, settles⟩ := first _ _ _ readFirst
  obtain ⟨back, rfl, settlesBack⟩ := second a _ _ _ readSecond
  refine ⟨front ++ back, (List.append_assoc ..).symm, ?_⟩
  intro more others enough same
  have sameMiddle : (back ++ others).head? = (back ++ rest).head? := by
    rw [List.head?_append, List.head?_append, same]
  rw [List.append_assoc]
  exact bind_eq_ok_iff.mpr
    ⟨(a, back ++ others), settles more _ enough sameMiddle, settlesBack more _ enough same⟩

theorem Settles.behind {read inner : Reader α} {fuel enough : Nat} {t : PlacedToken}
    {front : List PlacedToken} {a : α} {next : Option PlacedToken}
    (settles : Settles inner enough front a next) (goesOn : read.GoesOn inner t fuel enough) :
    Settles read fuel (t :: front) a next := by
  intro more rest isEnough same
  obtain ⟨m, isEnough, goesOn⟩ := goesOn more isEnough
  rw [List.cons_append, goesOn]
  exact settles m rest isEnough same

theorem LooksAhead.behind {read inner : Reader α} {fuel enough : Nat} {t : PlacedToken}
    {placed rest : List PlacedToken} {a : α} (looks : LooksAhead inner enough)
    (goesOn : read.GoesOn inner t fuel enough) (done : inner enough placed = .ok (a, rest)) :
    ∃ front, t :: placed = front ++ rest ∧ Settles read fuel front a rest.head? := by
  obtain ⟨front, rfl, settles⟩ := looks _ _ _ done
  exact ⟨t :: front, rfl, settles.behind goesOn⟩

/-! ### The parts of a type -/

theorem looksAhead_takeDims (base : TypeDescriptor) (fuel : Nat) :
    LooksAhead (fun _ placed => .ok (takeDims base placed)) fuel := by
  intro placed rest type done
  have taken : takeDims base placed = (type, rest) := Except.ok.inj done
  clear done
  fun_induction takeDims base placed with
  | case1 base position more ih =>
      obtain ⟨front, rfl, settles⟩ := ih taken
      exact ⟨⟨position, .dims⟩ :: front, rfl, settles⟩
  | case2 base placed noDims =>
      obtain ⟨rfl, rfl⟩ := Prod.mk.inj taken
      refine ⟨[], rfl, ?_⟩
      intro fuel others _ same
      rw [List.nil_append]
      cases others with
      | nil => rfl
      | cons first more =>
          obtain ⟨position, token⟩ := first
          cases token with
          | dims =>
              obtain ⟨last, rfl⟩ := List.head?_eq_some_iff.mp same.symm
              exact absurd rfl (noDims position last)
          | name | less | greater | comma | question => rfl

theorem looksAhead_wildcardOf {readBound : Reader TypeDescriptor} {fuel : Nat}
    (looks : LooksAhead readBound fuel) :
    LooksAhead (fun more => wildcardOf (readBound more)) fuel := by
  have bound (wrap : TypeDescriptor → TypeDescriptor) :
      LooksAhead (readBound.andThen fun bound => Reader.give (wrap bound)) fuel :=
    looks.andThen fun bound => looksAhead_give (wrap bound) fuel
  intro placed rest type done
  rcases wildcardOf_cases placed with ⟨position, inner, rfl⟩ | ⟨position, inner, rfl⟩ | alike
  · exact (bound wildcard).behind (fun more enough => ⟨more, enough, fun _ => rfl⟩) done
  · exact (bound fun _ => wildcard object).behind
      (fun more enough => ⟨more, enough, fun _ => rfl⟩) done
  · dsimp only at done
    rw [alike _ placed rfl] at done
    obtain ⟨rfl, rfl⟩ := Prod.mk.inj (Except.ok.inj done)
    exact ⟨[], rfl, fun more others _ same => alike _ others same⟩

theorem looksAhead_namedOf {readArguments : Reader (List TypeDescriptor)} {fuel : Nat}
    (looks : LooksAhead readArguments fuel) (position : Nat) (name : String) :
    LooksAhead (fun more => namedOf (readArguments more) position name) fuel := by
  intro placed rest type done
  dsimp only at done
  cases nameCase name placed with
  | invalid invalid =>
      rw [namedOf_of_not_isName invalid] at done
      contradiction
  | bare valid noArguments =>
      rw [namedOf_bare valid noArguments] at done
      obtain ⟨rfl, rfl⟩ := Prod.mk.inj (Except.ok.inj done)
      refine ⟨[], rfl, ?_⟩
      intro more others _ same
      have noneOfOthers : NoArguments others := fun first isFirst =>
        noArguments first (same.symm.trans isFirst)
      exact namedOf_bare valid noneOfOthers
  | generic valid free =>
      have generic : LooksAhead
          (readArguments.andThen fun args => Reader.give (reference name args)) fuel :=
        looks.andThen fun args => looksAhead_give (reference name args) fuel
      rw [namedOf_less_of_isReference valid free] at done
      apply generic.behind _ done
      intro more enough
      exact ⟨more, enough, namedOf_less_of_isReference valid free⟩
  | reserved valid taken =>
      rw [namedOf_less_of_reserved valid taken] at done
      contradiction

/-! ### Types and arguments -/

/-- Reads the brackets behind a type, and refuses a bare primitive in argument position. -/
def bracketsOf (isArgument : Bool) (base : TypeDescriptor) : Reader TypeDescriptor :=
  fun _ placed => do
    let (type, rest) := takeDims base placed
    checkArgument isArgument type
    return (type, rest)

theorem looksAhead_bracketsOf (isArgument : Bool) (base : TypeDescriptor) (fuel : Nat) :
    LooksAhead (bracketsOf isArgument base) fuel := by
  intro placed rest type done
  obtain ⟨_, checked, same⟩ := bind_eq_ok_iff.mp done
  have taken : takeDims base placed = (type, rest) := Except.ok.inj same
  obtain ⟨front, split, settles⟩ :=
    looksAhead_takeDims base fuel placed rest type (congrArg Except.ok taken)
  refine ⟨front, split, fun more others enough same => ?_⟩
  have takenAgain := Except.ok.inj (settles more others enough same)
  simp only [taken] at checked
  simp only [bracketsOf, takenAgain, checked]
  rfl

/-- Reads on behind an argument. -/
def afterArgument (readMore : Reader (List TypeDescriptor)) (arg : TypeDescriptor) :
    Reader (List TypeDescriptor) := fun fuel placed =>
  match placed with
  | [] => .error .unexpectedEnd
  | ⟨_, .greater⟩ :: after => return ([arg], after)
  | ⟨_, .comma⟩ :: more => do
      let (args, after) ← readMore fuel more
      return (arg :: args, after)
  | ⟨position, token⟩ :: _ => .error (.unexpected position token.text)

theorem looksAhead_afterArgument {readMore : Reader (List TypeDescriptor)} {fuel : Nat}
    (looks : LooksAhead readMore fuel) (arg : TypeDescriptor) :
    LooksAhead (afterArgument readMore arg) fuel := by
  intro placed rest args done
  match placed with
  | [] => contradiction
  | ⟨position, .greater⟩ :: after =>
      exact (looksAhead_give [arg] fuel).behind
        (fun more enough => ⟨more, enough, fun _ => rfl⟩) done
  | ⟨position, .comma⟩ :: more =>
      have others : LooksAhead (readMore.andThen fun args => Reader.give (arg :: args)) fuel :=
        looks.andThen fun args => looksAhead_give (arg :: args) fuel
      exact others.behind (fun more enough => ⟨more, enough, fun _ => rfl⟩) done
  | ⟨_, .name _⟩ :: _ | ⟨_, .less⟩ :: _ | ⟨_, .question⟩ :: _ | ⟨_, .dims⟩ :: _ => contradiction

/-- The reader of types, or of arguments. -/
abbrev typeReader (isArgument : Bool) : Reader TypeDescriptor := fun fuel =>
  parseType fuel isArgument

theorem parseArguments_succ (fuel : Nat) (placed : List PlacedToken) :
    parseArguments (fuel + 1) placed =
      Reader.andThen (typeReader true) (afterArgument parseArguments) fuel placed := rfl

/-- With a unit more of fuel, a reader behind a token does as another. -/
theorem goesOn_succ {read inner : Reader α} {t : PlacedToken}
    (same : ∀ fuel placed, read (fuel + 1) (t :: placed) = inner fuel placed) (fuel : Nat) :
    read.GoesOn inner t (fuel + 1) fuel := by
  intro more enough
  obtain ⟨m, rfl⟩ : ∃ m, more = m + 1 := ⟨more - 1, by omega⟩
  exact ⟨m, by omega, same m⟩

theorem goesOn_question (position fuel : Nat) :
    (typeReader true).GoesOn (fun more => wildcardOf (typeReader true more))
      ⟨position, .question⟩ (fuel + 1) fuel :=
  goesOn_succ (fun _ _ => rfl) fuel

theorem goesOn_name (isArgument : Bool) (position : Nat) (name : String) (fuel : Nat) :
    (typeReader isArgument).GoesOn
      (Reader.andThen (fun more => namedOf (parseArguments more) position name)
        (bracketsOf isArgument))
      ⟨position, .name name⟩ (fuel + 1) fuel :=
  goesOn_succ (fun _ _ => rfl) fuel

/-- The two readers look one token ahead. -/
theorem readers_lookAhead (fuel : Nat) :
    (∀ isArgument, LooksAhead (typeReader isArgument) fuel) ∧ LooksAhead parseArguments fuel := by
  induction fuel with
  | zero =>
      constructor
      · intro isArgument placed rest type done
        simp [parseType] at done
      · intro placed rest args done
        simp [parseArguments] at done
  | succ fuel ih =>
      obtain ⟨looksType, looksArguments⟩ := ih
      constructor
      · intro isArgument placed rest type done
        cases placed with
        | nil => contradiction
        | cons first inner =>
            obtain ⟨position, token⟩ := first
            cases token with
            | question =>
                cases isArgument with
                | false => contradiction
                | true =>
                    exact (looksAhead_wildcardOf (looksType true)).behind
                      (goesOn_question position fuel) done
            | name name =>
                have named := (looksAhead_namedOf looksArguments position name).andThen
                  fun base => looksAhead_bracketsOf isArgument base fuel
                exact named.behind (goesOn_name isArgument position name fuel) done
            | less | greater | comma | dims => contradiction
      · intro placed rest args done
        have both := (looksType true).andThen fun arg =>
          looksAhead_afterArgument looksArguments arg
        obtain ⟨front, split, settles⟩ := both _ _ _ done
        refine ⟨front, split, fun more others enough same => ?_⟩
        obtain ⟨m, rfl⟩ : ∃ m, more = m + 1 := ⟨more - 1, by omega⟩
        exact settles m others (by omega) same

end AdapterGen.TypeDescriptor
