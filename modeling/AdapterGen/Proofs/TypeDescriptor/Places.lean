import AdapterGen.TypeDescriptor.Parse

/-!
# The places of tokens

Reading a type looks at no place of a token. The places come out only in errors.

-/

namespace AdapterGen.TypeDescriptor

variable {α β : Type}

/-- The error as if it pointed at the first byte. -/
def SyntaxError.unplaced : SyntaxError → SyntaxError
  | unexpected _ found => unexpected 0 found
  | trailing _ found => trailing 0 found
  | other => other

/-- The tokens as if all of them began at the first byte. -/
def unplaced (placed : List PlacedToken) : List PlacedToken :=
  placed.map fun p => ⟨0, p.token⟩

/-- The result of a reader on unplaced tokens, from its result on the tokens. -/
def withoutPlaces : Except SyntaxError (α × List PlacedToken) →
    Except SyntaxError (α × List PlacedToken)
  | .ok (a, rest) => .ok (a, unplaced rest)
  | .error cause => .error cause.unplaced

/-- A reader that looks at no place. -/
def LooksAtNoPlace (read : List PlacedToken → Except SyntaxError (α × List PlacedToken)) : Prop :=
  ∀ placed, read (unplaced placed) = withoutPlaces (read placed)

/-- Steps behind a reader look at no place if each of them does not. -/
theorem withoutPlaces_bind {read : Except SyntaxError (α × List PlacedToken)}
    {next bare : α × List PlacedToken → Except SyntaxError (β × List PlacedToken)}
    (same : ∀ a rest, bare (a, unplaced rest) = withoutPlaces (next (a, rest))) :
    withoutPlaces read >>= bare = withoutPlaces (read >>= next) := by
  cases read with
  | error cause => rfl
  | ok result =>
      obtain ⟨a, rest⟩ := result
      exact same a rest

theorem takeDims_unplaced (type : TypeDescriptor) (placed : List PlacedToken) :
    takeDims type (unplaced placed) =
      ((takeDims type placed).1, unplaced (takeDims type placed).2) := by
  induction placed generalizing type with
  | nil => rfl
  | cons first rest ih =>
      obtain ⟨position, token⟩ := first
      cases token with
      | dims => exact ih (array type)
      | name | less | greater | comma | question => rfl

theorem wildcardOf_unplaced
    {readBound : List PlacedToken → Except SyntaxError (TypeDescriptor × List PlacedToken)}
    (blind : LooksAtNoPlace readBound) : LooksAtNoPlace (wildcardOf readBound) := by
  intro placed
  match placed with
  | [] => rfl
  | ⟨position, .name word⟩ :: rest =>
      simp only [unplaced, List.map_cons, wildcardOf]
      rw [← unplaced, blind rest]
      split
      · exact withoutPlaces_bind fun bound after => rfl
      · split
        · exact withoutPlaces_bind fun bound after => rfl
        · rfl
  | ⟨_, .less⟩ :: _ | ⟨_, .greater⟩ :: _ | ⟨_, .comma⟩ :: _ | ⟨_, .question⟩ :: _
  | ⟨_, .dims⟩ :: _ => rfl

theorem namedOf_unplaced
    {readArguments :
      List PlacedToken → Except SyntaxError (List TypeDescriptor × List PlacedToken)}
    (blind : LooksAtNoPlace readArguments) (position : Nat) (name : String)
    (placed : List PlacedToken) :
    namedOf readArguments 0 name (unplaced placed) =
      withoutPlaces (namedOf readArguments position name placed) := by
  unfold namedOf
  split
  · rfl
  · match placed with
    | [] => rfl
    | ⟨opening, .less⟩ :: inner =>
        simp only [unplaced, List.map_cons]
        rw [← unplaced, blind inner]
        cases ofName name with
        | reference denoted => exact withoutPlaces_bind fun args after => rfl
        | primitive | boxed | string | wildcard | array => rfl
    | ⟨_, .name _⟩ :: _ | ⟨_, .greater⟩ :: _ | ⟨_, .comma⟩ :: _ | ⟨_, .question⟩ :: _
    | ⟨_, .dims⟩ :: _ => rfl

/-- The two readers look at no place. -/
theorem readers_unplaced (fuel : Nat) :
    (∀ isArgument, LooksAtNoPlace (parseType fuel isArgument)) ∧
      LooksAtNoPlace (parseArguments fuel) := by
  induction fuel with
  | zero =>
      constructor
      · intro isArgument placed
        cases placed <;> rfl
      · intro placed
        rfl
  | succ fuel ih =>
      obtain ⟨blindType, blindArguments⟩ := ih
      constructor
      · intro isArgument placed
        match placed with
        | [] => rfl
        | ⟨position, .question⟩ :: rest =>
            cases isArgument with
            | false => rfl
            | true => exact wildcardOf_unplaced (blindType true) rest
        | ⟨position, .name name⟩ :: rest =>
            simp only [unplaced, List.map_cons, parseType]
            rw [← unplaced, namedOf_unplaced blindArguments position name rest]
            apply withoutPlaces_bind
            intro base after
            simp only [takeDims_unplaced]
            generalize (takeDims base after).1 = type
            cases isArgument with
            | false => rfl
            | true => cases type <;> rfl
        | ⟨_, .less⟩ :: _ | ⟨_, .greater⟩ :: _ | ⟨_, .comma⟩ :: _ | ⟨_, .dims⟩ :: _ => rfl
      · intro placed
        simp only [parseArguments]
        rw [blindType true placed]
        apply withoutPlaces_bind
        intro arg rest
        match rest with
        | [] => rfl
        | ⟨position, .greater⟩ :: after => rfl
        | ⟨position, .comma⟩ :: more =>
            simp only [unplaced, List.map_cons]
            rw [← unplaced, blindArguments more]
            exact withoutPlaces_bind fun args after => rfl
        | ⟨_, .less⟩ :: _ | ⟨_, .name _⟩ :: _ | ⟨_, .question⟩ :: _ | ⟨_, .dims⟩ :: _ => rfl

theorem ofTokens_unplaced (placed : List PlacedToken) :
    ofTokens (unplaced placed) = (ofTokens placed).mapError SyntaxError.unplaced := by
  cases placed with
  | nil => rfl
  | cons first more =>
      have read := (readers_unplaced (more.length + 2)).1 false (first :: more)
      have length : (unplaced (first :: more)).length = more.length + 1 := by simp [unplaced]
      have nonempty : (unplaced (first :: more)).isEmpty = false := rfl
      simp only [ofTokens, length, nonempty, read, List.length_cons, List.isEmpty_cons]
      rcases parseType (more.length + 2) false (first :: more) with cause | ⟨type, rest⟩
      · rfl
      · cases rest <;> rfl

/-- Two readings of the same tokens differ at most in the places that errors point at. -/
theorem ofTokens_eq_of_tokens_eq {placed other : List PlacedToken}
    (same : placed.map (·.token) = other.map (·.token)) :
    (ofTokens placed).mapError SyntaxError.unplaced =
      (ofTokens other).mapError SyntaxError.unplaced := by
  have moved (ps : List PlacedToken) :
      unplaced ps = (ps.map (·.token)).map fun t => ⟨0, t⟩ := by
    rw [unplaced, List.map_map]
    rfl
  calc
    (ofTokens placed).mapError SyntaxError.unplaced
      = ofTokens (unplaced placed) := (ofTokens_unplaced placed).symm
    _ = ofTokens (unplaced other) := by rw [moved, moved, same]
    _ = (ofTokens other).mapError SyntaxError.unplaced := ofTokens_unplaced other

end AdapterGen.TypeDescriptor
