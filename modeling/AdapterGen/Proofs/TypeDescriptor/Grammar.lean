import AdapterGen.Proofs.Outcome
import AdapterGen.Proofs.TypeDescriptor.Layout
import AdapterGen.Proofs.TypeDescriptor.Names
import AdapterGen.Proofs.TypeDescriptor.Places

/-!
# The grammar of the type syntax

    Type      ::= Name Arguments? "[]"*
    Argument  ::= Type but no bare primitive | "?" | "?" "extends" Argument | "?" "super" Argument
    Arguments ::= "<" Argument ("," Argument)* ">"

The reader accepts exactly the layouts of what the grammar derives, and gives
the derived type.

## Implementation notes

A derivation is followed by the end, a comma or a closing angle bracket. The
reader looks one token ahead, and none of the three lets it go on.

-/

namespace AdapterGen.TypeDescriptor

/-- A type under some array levels. -/
def arrays : Nat → TypeDescriptor → TypeDescriptor
  | 0, type => type
  | n + 1, type => arrays n (array type)

mutual

/-- Tokens that derive a type, or an argument. -/
inductive DerivesType : (isArgument : Bool) → List Token → TypeDescriptor → Prop
  | named {isArgument : Bool} {ts : List Token} {base : TypeDescriptor} (levels : Nat) :
      DerivesNamed ts base →
        (isArgument = true → ∀ kind, arrays levels base ≠ primitive kind) →
          DerivesType isArgument (ts ++ List.replicate levels Token.dims) (arrays levels base)
  | unbounded : DerivesType true [.question] (wildcard object)
  | upperBound {ts : List Token} {bound : TypeDescriptor} :
      DerivesType true ts bound →
        DerivesType true (.question :: .name "extends" :: ts) (wildcard bound)
  | lowerBound {ts : List Token} {bound : TypeDescriptor} :
      DerivesType true ts bound →
        DerivesType true (.question :: .name "super" :: ts) (wildcard object)

/-- Tokens that derive a type without array levels. Only a class reference takes arguments. -/
inductive DerivesNamed : List Token → TypeDescriptor → Prop
  | reserved {name : String} {type : TypeDescriptor} :
      IsName name → Reserved name type → DerivesNamed [.name name] type
  | plain {name : String} :
      IsName name → IsReference name → DerivesNamed [.name name] (reference name [])
  | generic {name : String} {ts : List Token} {args : List TypeDescriptor} :
      IsName name → IsReference name → DerivesArguments ts args →
        DerivesNamed (.name name :: .less :: ts) (reference name args)

/-- Tokens that derive arguments, up to and with the closing angle bracket. -/
inductive DerivesArguments : List Token → List TypeDescriptor → Prop
  | last {ts : List Token} {arg : TypeDescriptor} :
      DerivesType true ts arg → DerivesArguments (ts ++ [Token.greater]) [arg]
  | more {ts us : List Token} {arg : TypeDescriptor} {args : List TypeDescriptor} :
      DerivesType true ts arg → DerivesArguments us args →
        DerivesArguments (ts ++ .comma :: us) (arg :: args)

end

/-- A bare name derives what it denotes. -/
theorem DerivesNamed.ofName {name : String} (valid : IsName name) :
    DerivesNamed [.name name] (ofName name) := by
  rcases reserved_or_isReference name with reserved | free
  · exact .reserved valid reserved
  · rw [ofName_of_isReference free]
    exact .plain valid free

/-! ### How a name is read -/

/-- No arguments begin. -/
def NoArguments (placed : List PlacedToken) : Prop :=
  ∀ first, placed.head? = some first → first.token ≠ .less

/-- Arguments begin behind a name, or the type ends with it but for its brackets. -/
theorem less_or_noArguments (placed : List PlacedToken) :
    (∃ opening inner, placed = ⟨opening, .less⟩ :: inner) ∨ NoArguments placed := by
  match placed with
  | [] => exact .inr (by simp [NoArguments])
  | ⟨opening, token⟩ :: inner =>
      by_cases begins : token = .less
      · exact .inl ⟨opening, inner, by rw [begins]⟩
      · refine .inr fun first same => ?_
        obtain rfl := Option.some.inj same
        exact begins

/-- A token in the place of a name and what follows it: it is no name, it stands without arguments,
or arguments follow a name that takes them or one that does not. -/
inductive NameCase (name : String) : List PlacedToken → Prop
  | invalid {placed : List PlacedToken} : ¬ IsName name → NameCase name placed
  | bare {placed : List PlacedToken} : IsName name → NoArguments placed → NameCase name placed
  | generic {opening : Nat} {inner : List PlacedToken} : IsName name → IsReference name →
      NameCase name (⟨opening, .less⟩ :: inner)
  | reserved {opening : Nat} {inner : List PlacedToken} : IsName name → ¬ IsReference name →
      NameCase name (⟨opening, .less⟩ :: inner)

theorem nameCase (name : String) (placed : List PlacedToken) : NameCase name placed := by
  by_cases valid : IsName name
  · rcases less_or_noArguments placed with ⟨opening, inner, rfl⟩ | noArguments
    · by_cases free : IsReference name
      · exact .generic valid free
      · exact .reserved valid free
    · exact .bare valid noArguments
  · exact .invalid valid

section

variable {readArguments :
    List PlacedToken → Except SyntaxError (List TypeDescriptor × List PlacedToken)}
  {position opening : Nat} {name : String}

theorem namedOf_of_not_isName (invalid : ¬ IsName name) (placed : List PlacedToken) :
    namedOf readArguments position name placed = .error (.unexpected position name) := by
  have refused : isTypeName name = false := Bool.eq_false_iff.mpr (mt isTypeName_iff.mp invalid)
  simp [namedOf, refused]

theorem namedOf_less_of_isReference (valid : IsName name) (free : IsReference name)
    (inner : List PlacedToken) :
    namedOf readArguments position name (⟨opening, .less⟩ :: inner) =
      (readArguments inner >>= fun result => .ok (reference name result.1, result.2)) := by
  simp only [namedOf, isTypeName_iff.mpr valid, ofName_of_isReference free]
  rfl

theorem namedOf_less_of_reserved (valid : IsName name) (taken : ¬ IsReference name)
    (inner : List PlacedToken) :
    namedOf readArguments position name (⟨opening, .less⟩ :: inner) =
      .error (.unexpected opening (Token.text .less)) := by
  have reserved : Reserved name (ofName name) := (reserved_or_isReference name).resolve_right taken
  simp only [namedOf, isTypeName_iff.mpr valid]
  cases denoted : ofName name with
  | reference other args => exact absurd denoted (reserved.ne_reference other args)
  | primitive | boxed | string | wildcard | array => rfl

theorem namedOf_bare (valid : IsName name) {placed : List PlacedToken}
    (noArguments : NoArguments placed) :
    namedOf readArguments position name placed = .ok (ofName name, placed) := by
  simp only [namedOf, isTypeName_iff.mpr valid]
  match placed with
  | [] => rfl
  | ⟨opening, .less⟩ :: _ => exact absurd rfl (noArguments _ rfl)
  | ⟨_, .name _⟩ :: _ | ⟨_, .greater⟩ :: _ | ⟨_, .comma⟩ :: _ | ⟨_, .question⟩ :: _
  | ⟨_, .dims⟩ :: _ => rfl

end

/-! ### How a wildcard is read -/

/-- Behind a question mark comes a bound with its keyword, or the wildcard ends. -/
theorem wildcardOf_cases (placed : List PlacedToken) :
    (∃ position inner, placed = ⟨position, .name "extends"⟩ :: inner) ∨
    (∃ position inner, placed = ⟨position, .name "super"⟩ :: inner) ∨
    ∀ readBound others, others.head? = placed.head? →
      wildcardOf readBound others = .ok (wildcard object, others) := by
  cases placed with
  | nil =>
      refine .inr (.inr fun readBound others same => ?_)
      obtain rfl := List.head?_eq_none_iff.mp same
      rfl
  | cons first inner =>
      obtain ⟨position, token⟩ := first
      by_cases isUpper : token = .name "extends"
      · exact .inl ⟨position, inner, by rw [isUpper]⟩
      · by_cases isLower : token = .name "super"
        · exact .inr (.inl ⟨position, inner, by rw [isLower]⟩)
        · refine .inr (.inr fun readBound others same => ?_)
          obtain ⟨last, rfl⟩ := List.head?_eq_some_iff.mp same
          cases token with
          | name word =>
              have notUpper : word ≠ "extends" := fun same => isUpper (by rw [same])
              have notLower : word ≠ "super" := fun same => isLower (by rw [same])
              simp only [wildcardOf, notUpper, notLower, if_false]
              rfl
          | less | greater | comma | question | dims => rfl

/-! ### What is read is derived -/

/-- The tokens without their places. -/
def spelled (placed : List PlacedToken) : List Token := placed.map (·.token)

theorem takeDims_eq {type result : TypeDescriptor} {placed rest : List PlacedToken}
    (taken : takeDims type placed = (result, rest)) :
    ∃ levels used, placed = used ++ rest ∧ spelled used = List.replicate levels Token.dims ∧
      result = arrays levels type := by
  fun_induction takeDims type placed with
  | case1 type position more ih =>
      obtain ⟨levels, used, rfl, same, rfl⟩ := ih taken
      exact ⟨levels + 1, ⟨position, .dims⟩ :: used, rfl,
        by simpa [spelled, List.replicate_succ] using same, rfl⟩
  | case2 type placed _ =>
      obtain ⟨rfl, rfl⟩ := Prod.mk.inj taken
      exact ⟨0, [], rfl, rfl, rfl⟩

theorem checkArgument_eq_ok_iff {isArgument : Bool} {type : TypeDescriptor} :
    checkArgument isArgument type = .ok () ↔
      (isArgument = true → ∀ kind, type ≠ primitive kind) := by
  cases isArgument with
  | false => simp [checkArgument]
  | true => cases type <;> simp [checkArgument]

/-- What a reader gives was derived from the tokens that it took. -/
def Takes {α : Type} (derives : List Token → α → Prop)
    (read : List PlacedToken → Except SyntaxError (α × List PlacedToken)) : Prop :=
  ∀ {placed rest : List PlacedToken} {a : α}, read placed = .ok (a, rest) →
    ∃ used, placed = used ++ rest ∧ derives (spelled used) a

theorem wildcardOf_derives
    {readBound : List PlacedToken → Except SyntaxError (TypeDescriptor × List PlacedToken)}
    (sound : Takes (DerivesType true) readBound) (position : Nat)
    {placed rest : List PlacedToken} {type : TypeDescriptor}
    (done : wildcardOf readBound placed = .ok (type, rest)) :
    ∃ used, ⟨position, .question⟩ :: placed = used ++ rest ∧
      DerivesType true (spelled used) type := by
  rcases wildcardOf_cases placed with ⟨at_, inner, rfl⟩ | ⟨at_, inner, rfl⟩ | alike
  · obtain ⟨⟨bound, more⟩, read, same⟩ := bind_eq_ok_iff.mp done
    obtain ⟨rfl, rfl⟩ := Prod.mk.inj (Except.ok.inj same)
    obtain ⟨used, rfl, derived⟩ := sound read
    exact ⟨⟨position, .question⟩ :: ⟨at_, .name "extends"⟩ :: used, rfl, .upperBound derived⟩
  · obtain ⟨⟨bound, more⟩, read, same⟩ := bind_eq_ok_iff.mp done
    obtain ⟨rfl, rfl⟩ := Prod.mk.inj (Except.ok.inj same)
    obtain ⟨used, rfl, derived⟩ := sound read
    exact ⟨⟨position, .question⟩ :: ⟨at_, .name "super"⟩ :: used, rfl, .lowerBound derived⟩
  · rw [alike readBound placed rfl] at done
    obtain ⟨rfl, rfl⟩ := Prod.mk.inj (Except.ok.inj done)
    exact ⟨[⟨position, .question⟩], rfl, .unbounded⟩

theorem namedOf_derives
    {readArguments :
      List PlacedToken → Except SyntaxError (List TypeDescriptor × List PlacedToken)}
    (sound : Takes DerivesArguments readArguments) {position : Nat} {name : String}
    {placed rest : List PlacedToken} {type : TypeDescriptor}
    (done : namedOf readArguments position name placed = .ok (type, rest)) :
    ∃ used, ⟨position, .name name⟩ :: placed = used ++ rest ∧
      DerivesNamed (spelled used) type := by
  cases nameCase name placed with
  | invalid invalid =>
      rw [namedOf_of_not_isName invalid] at done
      contradiction
  | bare valid noArguments =>
      rw [namedOf_bare valid noArguments] at done
      obtain ⟨rfl, rfl⟩ := Prod.mk.inj (Except.ok.inj done)
      exact ⟨[⟨position, .name name⟩], rfl, .ofName valid⟩
  | @generic opening inner valid free =>
      rw [namedOf_less_of_isReference valid free] at done
      obtain ⟨⟨args, more⟩, read, same⟩ := bind_eq_ok_iff.mp done
      obtain ⟨rfl, rfl⟩ := Prod.mk.inj (Except.ok.inj same)
      obtain ⟨used, rfl, derived⟩ := sound read
      exact ⟨⟨position, .name name⟩ :: ⟨opening, .less⟩ :: used, rfl, .generic valid free derived⟩
  | reserved valid taken =>
      rw [namedOf_less_of_reserved valid taken] at done
      contradiction

theorem readers_derive (fuel : Nat) :
    (∀ isArgument, Takes (DerivesType isArgument) (parseType fuel isArgument)) ∧
      Takes DerivesArguments (parseArguments fuel) := by
  induction fuel with
  | zero =>
      refine ⟨fun _ _ _ _ done => ?_, fun done => ?_⟩
      · simp [parseType] at done
      · simp [parseArguments] at done
  | succ fuel ih =>
      obtain ⟨readsType, readsArguments⟩ := ih
      constructor
      · intro isArgument placed rest type done
        cases placed with
        | nil => simp [parseType] at done
        | cons first placed =>
            obtain ⟨position, token⟩ := first
            unfold parseType at done
            split at done
            · cases isArgument with
              | false => contradiction
              | true => exact wildcardOf_derives (readsType true) position done
            · obtain ⟨⟨base, after⟩, named, bracketed⟩ := bind_eq_ok_iff.mp done
              obtain ⟨used, split, derived⟩ := namedOf_derives readsArguments named
              rcases taken : takeDims base after with ⟨result, left⟩
              simp only [taken] at bracketed
              obtain ⟨levels, brackets, rfl, dims, rfl⟩ := takeDims_eq taken
              obtain ⟨_, checked, same⟩ := bind_eq_ok_iff.mp bracketed
              obtain ⟨rfl, rfl⟩ := Prod.mk.inj (Except.ok.inj same)
              refine ⟨used ++ brackets, by simp [split], ?_⟩
              have spelling : spelled (used ++ brackets) =
                  spelled used ++ List.replicate levels Token.dims := by
                rw [← dims, spelled, List.map_append, spelled, spelled]
              rw [spelling]
              exact .named levels derived (checkArgument_eq_ok_iff.mp checked)
            · contradiction
      · intro placed rest args done
        unfold parseArguments at done
        obtain ⟨⟨arg, after⟩, read, follow⟩ := bind_eq_ok_iff.mp done
        obtain ⟨used, split, derived⟩ := readsType true read
        subst split
        dsimp only at follow
        split at follow
        · contradiction
        · rename_i position after
          obtain ⟨rfl, rfl⟩ := Prod.mk.inj (Except.ok.inj follow)
          refine ⟨used ++ [⟨position, .greater⟩], by simp, ?_⟩
          simpa [spelled] using DerivesArguments.last derived
        · rename_i position after
          obtain ⟨⟨more, left⟩, readMore, same⟩ := bind_eq_ok_iff.mp follow
          obtain ⟨rfl, rfl⟩ := Prod.mk.inj (Except.ok.inj same)
          obtain ⟨usedMore, rfl, derivedMore⟩ := readsArguments readMore
          refine ⟨used ++ ⟨position, .comma⟩ :: usedMore, by simp, ?_⟩
          simpa [spelled] using DerivesArguments.more derived derivedMore
        · contradiction

/-! ### What is derived is read -/

theorem spelled_eq_cons_iff {placed : List PlacedToken} {t : Token} {ts : List Token} :
    spelled placed = t :: ts ↔
      ∃ position more, placed = ⟨position, t⟩ :: more ∧ spelled more = ts := by
  constructor
  · intro same
    obtain ⟨⟨position, _⟩, more, rfl, rfl, rfl⟩ := List.map_eq_cons_iff.mp same
    exact ⟨position, more, rfl, rfl⟩
  · rintro ⟨position, more, rfl, rfl⟩
    rfl

theorem spelled_eq_append_iff {placed : List PlacedToken} {ts us : List Token} :
    spelled placed = ts ++ us ↔
      ∃ left right, placed = left ++ right ∧ spelled left = ts ∧ spelled right = us :=
  List.map_eq_append_iff

/-- The tokens that may follow a derivation: none, or one that begins with a comma or a closing
angle bracket. -/
def Closes (rest : List PlacedToken) : Prop :=
  ∀ first, rest.head? = some first → first.token = .comma ∨ first.token = .greater

theorem takeDims_of_closes {rest : List PlacedToken} (closes : Closes rest)
    (type : TypeDescriptor) : takeDims type rest = (type, rest) := by
  cases rest with
  | nil => rfl
  | cons first more =>
      obtain ⟨position, token⟩ := first
      rcases closes _ rfl with same | same <;> cases same <;> rfl

theorem takeDims_replicate {rest : List PlacedToken} (closes : Closes rest) {levels : Nat}
    {brackets : List PlacedToken} (dims : spelled brackets = List.replicate levels .dims)
    (type : TypeDescriptor) : takeDims type (brackets ++ rest) = (arrays levels type, rest) := by
  induction levels generalizing brackets type with
  | zero =>
      obtain rfl : brackets = [] := List.map_eq_nil_iff.mp dims
      exact takeDims_of_closes closes type
  | succ levels ih =>
      obtain ⟨position, more, rfl, others⟩ := spelled_eq_cons_iff.mp dims
      exact ih others (array type)

theorem noArguments_of_closes {rest : List PlacedToken} (closes : Closes rest) {levels : Nat}
    {brackets : List PlacedToken} (dims : spelled brackets = List.replicate levels .dims) :
    NoArguments (brackets ++ rest) := by
  intro first isFirst
  cases brackets with
  | nil => rcases closes first isFirst with same | same <;> simp [same]
  | cons bracket more =>
      obtain rfl : bracket = first := Option.some.inj isFirst
      have level : bracket.token ∈ List.replicate levels Token.dims := by
        rw [← dims]
        exact List.mem_cons_self
      simp [List.eq_of_mem_replicate level]

theorem DerivesNamed.exists_name {ts : List Token} {type : TypeDescriptor}
    (derived : DerivesNamed ts type) : ∃ name us, ts = .name name :: us := by
  cases derived <;> exact ⟨_, _, rfl⟩

theorem DerivesType.ne_nil {isArgument : Bool} {ts : List Token} {type : TypeDescriptor}
    (derived : DerivesType isArgument ts type) : ts ≠ [] := by
  cases derived with
  | named levels named =>
      obtain ⟨name, us, rfl⟩ := named.exists_name
      simp
  | unbounded => simp
  | upperBound => simp
  | lowerBound => simp

/-- A reader gives what is derived, if it is followed by what may follow. -/
def Finds {α : Type} (derives : List Token → α → Prop) (rest : List PlacedToken)
    (read : List PlacedToken → Except SyntaxError (α × List PlacedToken)) (bound : Nat) : Prop :=
  ∀ {placed : List PlacedToken} {a : α}, placed.length ≤ bound → derives (spelled placed) a →
    read (placed ++ rest) = .ok (a, rest)

theorem wildcardOf_of_closes
    {readBound : List PlacedToken → Except SyntaxError (TypeDescriptor × List PlacedToken)}
    {rest : List PlacedToken} (closes : Closes rest) :
    wildcardOf readBound rest = .ok (wildcard object, rest) := by
  cases rest with
  | nil => rfl
  | cons first more =>
      obtain ⟨position, token⟩ := first
      rcases closes _ rfl with same | same <;> cases same <;> rfl

theorem namedOf_finds
    {readArguments :
      List PlacedToken → Except SyntaxError (List TypeDescriptor × List PlacedToken)}
    (bound position : Nat) {name : String} {placed rest : List PlacedToken}
    {type : TypeDescriptor} (short : placed.length ≤ bound)
    (derived : DerivesNamed (.name name :: spelled placed) type)
    (noArguments : NoArguments rest)
    (complete : ∀ {inner : List PlacedToken} {args : List TypeDescriptor},
      inner.length < bound → DerivesArguments (spelled inner) args →
        readArguments (inner ++ rest) = .ok (args, rest)) :
    namedOf readArguments position name (placed ++ rest) = .ok (type, rest) := by
  generalize spelling : Token.name name :: spelled placed = ts at derived
  cases derived with
  | reserved valid reserved =>
      obtain ⟨same, none⟩ := List.cons.inj spelling
      obtain rfl := Token.name.inj same
      obtain rfl : placed = [] := List.map_eq_nil_iff.mp none
      rw [List.nil_append, namedOf_bare valid noArguments, ofName_of_reserved reserved]
  | plain valid free =>
      obtain ⟨same, none⟩ := List.cons.inj spelling
      obtain rfl := Token.name.inj same
      obtain rfl : placed = [] := List.map_eq_nil_iff.mp none
      rw [List.nil_append, namedOf_bare valid noArguments, ofName_of_isReference free]
  | generic valid free arguments =>
      obtain ⟨same, more⟩ := List.cons.inj spelling
      obtain rfl := Token.name.inj same
      obtain ⟨opening, inner, rfl, rfl⟩ := spelled_eq_cons_iff.mp more
      have shorter : inner.length < bound := by
        rw [List.length_cons] at short
        omega
      have read := complete shorter arguments
      rw [List.cons_append, namedOf_less_of_isReference valid free, read]
      rfl

theorem readers_find (fuel : Nat) :
    (∀ isArgument rest, Closes rest →
        Finds (DerivesType isArgument) rest (parseType fuel isArgument) fuel) ∧
      ∀ rest bound, bound < fuel →
        Finds DerivesArguments rest (parseArguments fuel) bound := by
  induction fuel with
  | zero =>
      refine ⟨?_, fun _ _ short => absurd short (Nat.not_lt_zero _)⟩
      intro isArgument rest _ placed type short derived
      obtain rfl : placed = [] := List.length_eq_zero_iff.mp (by omega)
      exact absurd rfl derived.ne_nil
  | succ fuel ih =>
      obtain ⟨findsType, findsArguments⟩ := ih
      constructor
      · intro isArgument rest closes placed type short derived
        generalize spelling : spelled placed = ts at derived
        cases derived with
        | @named _ _ base levels named allowed =>
            obtain ⟨front, brackets, rfl, rfl, dims⟩ := spelled_eq_append_iff.mp spelling
            obtain ⟨name, us, first⟩ := named.exists_name
            obtain ⟨position, more, rfl, rfl⟩ := spelled_eq_cons_iff.mp first
            have found : namedOf (parseArguments fuel) position name (more ++ (brackets ++ rest)) =
                .ok (base, brackets ++ rest) := by
              refine namedOf_finds fuel position (by simp at short; omega) named
                (noArguments_of_closes closes dims) ?_
              intro inner args shorter arguments
              exact findsArguments (brackets ++ rest) inner.length shorter (Nat.le_refl _) arguments
            have checked := checkArgument_eq_ok_iff.mpr allowed
            simp [parseType, found, takeDims_replicate closes dims, checked, bind, Except.bind,
              pure, Except.pure]
        | unbounded =>
            obtain ⟨position, none, rfl, same⟩ := spelled_eq_cons_iff.mp spelling
            obtain rfl : none = [] := List.map_eq_nil_iff.mp same
            simp [parseType, wildcardOf_of_closes closes]
        | upperBound derived =>
            obtain ⟨position, more, rfl, same⟩ := spelled_eq_cons_iff.mp spelling
            obtain ⟨next, inner, rfl, rfl⟩ := spelled_eq_cons_iff.mp same
            have read := findsType true rest closes (by simp at short; omega) derived
            simp [parseType, wildcardOf, read, bind, Except.bind, pure, Except.pure]
        | lowerBound derived =>
            obtain ⟨position, more, rfl, same⟩ := spelled_eq_cons_iff.mp spelling
            obtain ⟨next, inner, rfl, rfl⟩ := spelled_eq_cons_iff.mp same
            have read := findsType true rest closes (by simp at short; omega) derived
            simp [parseType, wildcardOf, read, bind, Except.bind, pure, Except.pure]
      · intro rest bound less placed args short derived
        generalize spelling : spelled placed = ts at derived
        cases derived with
        | last derived =>
            obtain ⟨front, closing, rfl, rfl, same⟩ := spelled_eq_append_iff.mp spelling
            obtain ⟨position, none, rfl, ended⟩ := spelled_eq_cons_iff.mp same
            obtain rfl : none = [] := List.map_eq_nil_iff.mp ended
            have read := findsType true (⟨position, .greater⟩ :: rest) (by simp [Closes])
              (by simp at short; omega) derived
            simp [parseArguments, read, bind, Except.bind, pure, Except.pure]
        | more derived others =>
            obtain ⟨front, back, rfl, rfl, same⟩ := spelled_eq_append_iff.mp spelling
            obtain ⟨position, more, rfl, rfl⟩ := spelled_eq_cons_iff.mp same
            have read := findsType true (⟨position, .comma⟩ :: (more ++ rest)) (by simp [Closes])
              (by simp at short; omega) derived
            have readMore := findsArguments rest more.length (by simp at short; omega)
              (Nat.le_refl _) others
            simp [parseArguments, read, readMore, bind, Except.bind, pure, Except.pure]

/-! ### The language of the reader -/

theorem ofTokens_eq_ok_iff {placed : List PlacedToken} {type : TypeDescriptor} :
    ofTokens placed = .ok type ↔ DerivesType false (spelled placed) type := by
  constructor
  · intro done
    dsimp only [ofTokens] at done
    split at done
    · contradiction
    · obtain ⟨⟨result, rest⟩, read, ended⟩ := bind_eq_ok_iff.mp done
      obtain ⟨used, rfl, derived⟩ := (readers_derive _).1 false read
      dsimp only at ended
      split at ended
      · obtain rfl := Except.ok.inj ended
        simpa using derived
      · contradiction
  · intro derived
    have nonempty : placed.isEmpty = false := by
      cases placed with
      | nil => exact absurd rfl derived.ne_nil
      | cons => rfl
    have read := (readers_find (placed.length + 1)).1 false [] (by simp [Closes])
      (Nat.le_succ _) derived
    rw [List.append_nil] at read
    simp [ofTokens, nonempty, read, bind, Except.bind, pure, Except.pure]

/-- A token sequence derives one type at most. -/
theorem DerivesType.unique {isArgument : Bool} {ts : List Token} {type other : TypeDescriptor}
    (left : DerivesType isArgument ts type) (right : DerivesType isArgument ts other) :
    type = other := by
  let placed : List PlacedToken := ts.map fun t => ⟨0, t⟩
  have spelling : spelled placed = ts := by simp [placed, spelled, Function.comp_def]
  have closes : Closes [] := by simp [Closes]
  rw [← spelling] at left right
  have readLeft := (readers_find placed.length).1 isArgument [] closes (Nat.le_refl _) left
  have readRight := (readers_find placed.length).1 isArgument [] closes (Nat.le_refl _) right
  exact (Prod.mk.inj (Except.ok.inj (readLeft.symm.trans readRight))).1

theorem parse_eq_ok_iff {input : String} {type : TypeDescriptor} :
    parse input = .ok type ↔ ∃ ts, Layout input.toList ts ∧ DerivesType false ts type := by
  unfold parse tokens
  rw [bind_eq_ok_iff]
  constructor
  · rintro ⟨placed, cut, read⟩
    exact ⟨spelled placed, layout_of_tokensFrom cut, ofTokens_eq_ok_iff.mp read⟩
  · rintro ⟨ts, layout, derived⟩
    obtain ⟨placed, cut, rfl⟩ := layout.exists_tokensFrom 0
    exact ⟨placed, cut, ofTokens_eq_ok_iff.mpr derived⟩

/-- The reader accepts exactly the layouts of the sentences of the grammar, each of which derives
one type. An input has one token sequence at most, and inputs of one token sequence are read alike,
but for the positions that errors point at. -/
theorem parse_accepts_exactly_grammar :
    (∀ (input : String) (type : TypeDescriptor),
      parse input = .ok type ↔ ∃ ts, Layout input.toList ts ∧ DerivesType false ts type) ∧
    (∀ (isArgument : Bool) (ts : List Token) (type other : TypeDescriptor),
      DerivesType isArgument ts type → DerivesType isArgument ts other → type = other) ∧
    (∀ (input : String) (ts us : List Token), Layout input.toList ts →
      Layout input.toList us → ts = us) ∧
    (∀ (input other : String) (ts : List Token), Layout input.toList ts →
      Layout other.toList ts →
        (parse input).mapError SyntaxError.unplaced =
          (parse other).mapError SyntaxError.unplaced) := by
  refine ⟨fun input type => parse_eq_ok_iff, fun _ _ _ _ => DerivesType.unique,
    fun _ _ _ => Layout.unique, ?_⟩
  intro input other ts layout layoutOther
  obtain ⟨placed, cut, spelling⟩ := layout.exists_tokensFrom 0
  obtain ⟨moved, cutOther, spellingOther⟩ := layoutOther.exists_tokensFrom 0
  have read : parse input = ofTokens placed := by
    unfold parse tokens
    rw [cut]
    rfl
  have readOther : parse other = ofTokens moved := by
    unfold parse tokens
    rw [cutOther]
    rfl
  rw [read, readOther]
  exact ofTokens_eq_of_tokens_eq (spelling.trans spellingOther.symm)

end AdapterGen.TypeDescriptor
