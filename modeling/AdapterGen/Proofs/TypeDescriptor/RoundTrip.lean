import AdapterGen.Proofs.TypeDescriptor.Grammar

/-!
# Rendering and reading types

The text of a type is read back as that type exactly when the type is well
formed, and reading gives nothing but well-formed types.

## Implementation notes

A rendered type is followed by the end or by a character that is no part of a
name. `Spells` keeps this condition with the layout of a part, so that the
layouts of the parts join to the layout of the whole.

-/

namespace AdapterGen.TypeDescriptor

/-- The name of a class as it stands in a reference. -/
structure IsClassName (name : String) : Prop extends IsName name where
  nameChars : ∀ c ∈ name.toList, isNameChar c = true
  isReference : IsReference name

/-- A type that has a text of its own. Bare primitives are kept from arguments and bounds, and
wildcards from all other positions. -/
inductive WellFormed : (isArgument : Bool) → TypeDescriptor → Prop
  | primitive (kind : PrimitiveKind) : WellFormed false (primitive kind)
  | boxed {isArgument : Bool} (kind : PrimitiveKind) : WellFormed isArgument (boxed kind)
  | string {isArgument : Bool} : WellFormed isArgument string
  | reference {isArgument : Bool} {name : String} {args : List TypeDescriptor} :
      IsClassName name → (∀ arg ∈ args, WellFormed true arg) →
        WellFormed isArgument (reference name args)
  | wildcard {bound : TypeDescriptor} : WellFormed true bound → WellFormed true (wildcard bound)
  | array {isArgument : Bool} {component : TypeDescriptor} :
      WellFormed false component → WellFormed isArgument (array component)

theorem arrays_succ (levels : Nat) (type : TypeDescriptor) :
    arrays (levels + 1) type = array (arrays levels type) := by
  induction levels generalizing type with
  | zero => rfl
  | succ levels ih => exact ih (array type)

/-! ### What is derived is well formed -/

/-- Name tokens as a text spells them. -/
def NamesSpelled (ts : List Token) : Prop :=
  ∀ name, Token.name name ∈ ts → ∀ c ∈ name.toList, isNameChar c = true

theorem Layout.namesSpelled {cs : List Char} {ts : List Token} (layout : Layout cs ts) :
    NamesSpelled ts := by
  induction layout with
  | done => simp [NamesSpelled]
  | blank _ _ ih => exact ih
  | symbol spelled _ ih =>
      intro name found
      rcases List.mem_cons.mp found with same | later
      · exact absurd same.symm ((Token.text_of_ofChar? spelled).2 name)
      · exact ih name later
  | dims _ _ ih => exact fun name found => ih name (by simpa using found)
  | @name run cs ts _ inName _ _ ih =>
      intro name found
      rcases List.mem_cons.mp found with same | later
      · obtain rfl := Token.name.inj same
        simpa using inName
      · exact ih name later

theorem wellFormed_arrays {isArgument : Bool} {type : TypeDescriptor} {levels : Nat}
    (base : WellFormed false type)
    (allowed : isArgument = true → ∀ kind, arrays levels type ≠ primitive kind) :
    WellFormed isArgument (arrays levels type) := by
  induction levels generalizing isArgument with
  | zero =>
      cases isArgument with
      | false => exact base
      | true =>
          cases base with
          | primitive kind => exact absurd rfl (allowed rfl kind)
          | boxed kind => exact .boxed kind
          | string => exact .string
          | reference name args => exact .reference name args
          | array component => exact .array component
  | succ levels ih =>
      rw [arrays_succ]
      exact .array (ih (by simp))

theorem wellFormed_of_reserved {name : String} {type : TypeDescriptor}
    (reserved : Reserved name type) : WellFormed false type := by
  cases reserved with
  | keyword kind => exact .primitive kind
  | string => exact .string
  | qualifiedString => exact .string
  | wrapper kind => exact .boxed kind
  | qualifiedWrapper kind => exact .boxed kind

theorem wellFormed_object {isArgument : Bool} : WellFormed isArgument object := by
  have valid : IsName objectName := isTypeName_iff.mp (by decide)
  have free : IsReference objectName := isReference_iff.mpr (by decide)
  have letters : ∀ c ∈ objectName.toList, isNameChar c = true :=
    List.all_eq_true.mp rfl
  exact .reference ⟨valid, letters, free⟩ (by simp)

mutual

theorem DerivesType.wellFormed : ∀ {isArgument : Bool} {ts : List Token} {type : TypeDescriptor},
    DerivesType isArgument ts type → NamesSpelled ts → WellFormed isArgument type
  | _, _, _, .named levels named allowed, names =>
      wellFormed_arrays (named.wellFormed fun name found => names name (by simp [found])) allowed
  | _, _, _, .unbounded, _ => .wildcard wellFormed_object
  | _, _, _, .upperBound bound, names =>
      .wildcard (bound.wellFormed fun name found => names name (by simp [found]))
  | _, _, _, .lowerBound _, _ => .wildcard wellFormed_object

theorem DerivesNamed.wellFormed : ∀ {ts : List Token} {type : TypeDescriptor},
    DerivesNamed ts type → NamesSpelled ts → WellFormed false type
  | _, _, .reserved _ reserved, _ => wellFormed_of_reserved reserved
  | _, _, .plain valid free, names =>
      .reference ⟨valid, names _ (by simp), free⟩ (by simp)
  | _, _, .generic valid free arguments, names =>
      .reference ⟨valid, names _ (by simp), free⟩
        (arguments.wellFormed fun name found => names name (by simp [found]))

theorem DerivesArguments.wellFormed : ∀ {ts : List Token} {args : List TypeDescriptor},
    DerivesArguments ts args → NamesSpelled ts → ∀ arg ∈ args, WellFormed true arg
  | _, _, .last arg, names => by
      have wellFormed := arg.wellFormed fun name found => names name (by simp [found])
      simpa using wellFormed
  | _, _, .more arg others, names => by
      have wellFormed := arg.wellFormed fun name found => names name (by simp [found])
      have othersWellFormed := others.wellFormed fun name found => names name (by simp [found])
      simpa using ⟨wellFormed, othersWellFormed⟩

end

/-! ### A well-formed type is read from its text -/

/-- Characters that spell tokens in front of anything that does not go on a name. -/
def Spells (cs : List Char) (ts : List Token) : Prop :=
  ∀ rest us, Stops rest → Layout rest us → Layout (cs ++ rest) (ts ++ us)

theorem Spells.nil : Spells [] [] := fun _ _ _ layout => layout

theorem Spells.name {name : String} (nonempty : name ≠ "")
    (nameChars : ∀ c ∈ name.toList, isNameChar c = true) :
    Spells name.toList [.name name] := by
  intro rest us stops layout
  have run : name.toList ≠ [] := fun empty => nonempty (String.toList_eq_nil_iff.mp empty)
  simpa using Layout.name run nameChars stops layout

theorem Spells.symbol {c : Char} {t : Token} (spelled : Token.ofChar? c = some t)
    {cs : List Char} {ts : List Token} (spells : Spells cs ts) : Spells (c :: cs) (t :: ts) :=
  fun rest us stops layout => .symbol spelled (spells rest us stops layout)

theorem Spells.space {cs : List Char} {ts : List Token} (spells : Spells cs ts) :
    Spells (' ' :: cs) ts :=
  fun rest us stops layout => .blank (by decide) (spells rest us stops layout)

theorem Spells.brackets : Spells ['[', ']'] [.dims] := by
  intro rest us _ layout
  have noBlanks : ∀ c ∈ ([] : List Char), Text.isBlank c = true := by simp
  exact .dims noBlanks layout

theorem Spells.append {cs ds : List Char} {ts us : List Token} (left : Spells cs ts)
    (right : Spells ds us) (nonempty : ds ≠ []) (stops : Stops ds) :
    Spells (cs ++ ds) (ts ++ us) := by
  intro rest vs stopsRest layout
  rw [List.append_assoc, List.append_assoc]
  refine left _ _ ?_ (right rest vs stopsRest layout)
  obtain ⟨d, more, rfl⟩ := List.exists_cons_of_ne_nil nonempty
  exact stops

/-- A text that spells tokens which derive something. -/
def Writes (cs : List Char) (derives : List Token → Prop) : Prop :=
  ∃ ts, Spells cs ts ∧ derives ts

theorem writes_name {name : String} {type : TypeDescriptor} {isArgument : Bool}
    (valid : IsName name) (nameChars : ∀ c ∈ name.toList, isNameChar c = true)
    (derived : DerivesNamed [.name name] type)
    (allowed : isArgument = true → ∀ kind, type ≠ primitive kind) :
    Writes name.toList (DerivesType isArgument · type) :=
  ⟨[.name name], Spells.name valid.nonempty nameChars, .named 0 derived allowed⟩

theorem writes_array {cs : List Char} {component : TypeDescriptor} {isArgument : Bool}
    (written : Writes cs (DerivesType false · component)) :
    Writes (cs ++ ['[', ']']) (DerivesType isArgument · (array component)) := by
  obtain ⟨ts, spells, derived⟩ := written
  refine ⟨ts ++ [Token.dims], spells.append Spells.brackets (by simp) (stops_cons (by decide)), ?_⟩
  cases derived with
  | named levels named _ =>
      have more : DerivesType isArgument _ (arrays (levels + 1) _) :=
        .named (levels + 1) named (by simp [arrays_succ])
      rwa [arrays_succ, List.replicate_succ', ← List.append_assoc] at more

theorem writes_wildcard {bound : TypeDescriptor}
    (written : Writes bound.render.toList (DerivesType true · bound)) :
    Writes (wildcard bound).render.toList (DerivesType true · (wildcard bound)) := by
  unfold render
  split
  · rename_i isObject
    subst isObject
    exact ⟨[.question], Spells.symbol rfl Spells.nil, .unbounded⟩
  · obtain ⟨ts, spells, derived⟩ := written
    have keyword : Spells "extends".toList [.name "extends"] :=
      Spells.name (by decide) (List.all_eq_true.mp rfl)
    have bounded := keyword.append spells.space (by simp) (stops_cons (by decide))
    refine ⟨_, ?_, .upperBound derived⟩
    simpa using Spells.symbol (c := '?') rfl bounded.space

/-- The text of arguments, up to and with the closing angle bracket. -/
theorem writes_arguments {arg : TypeDescriptor} {args : List TypeDescriptor}
    (written : ∀ type ∈ arg :: args, Writes type.render.toList (DerivesType true · type)) :
    Writes (arg.render.toList ++ ((renderRest args).toList ++ ['>']))
      (DerivesArguments · (arg :: args)) := by
  obtain ⟨ts, spells, derived⟩ := written arg (by simp)
  induction args generalizing arg ts with
  | nil =>
      have closing : Spells ['>'] [.greater] := Spells.symbol rfl Spells.nil
      refine ⟨ts ++ [Token.greater], ?_, .last derived⟩
      simpa [renderRest] using spells.append closing (by simp) (stops_cons (by decide))
  | cons next args ih =>
      obtain ⟨us, spellsNext, derivedNext⟩ := written next (by simp)
      obtain ⟨vs, spellsMore, derivedMore⟩ :=
        ih (fun type found => written type (by simp [found])) us spellsNext derivedNext
      refine ⟨_, ?_, .more derived derivedMore⟩
      have comma := Spells.symbol (c := ',') rfl spellsMore.space
      simpa [renderRest] using spells.append comma (by simp) (stops_cons (by decide))

theorem writes_reference {name : String} {args : List TypeDescriptor} {isArgument : Bool}
    (valid : IsClassName name)
    (written : ∀ arg ∈ args, Writes arg.render.toList (DerivesType true · arg)) :
    Writes (reference name args).render.toList
      (DerivesType isArgument · (reference name args)) := by
  cases args with
  | nil =>
      exact writes_name valid.toIsName valid.nameChars (.plain valid.toIsName valid.isReference)
        (by simp)
  | cons arg args =>
      obtain ⟨ts, spells, derived⟩ := writes_arguments written
      have opening := Spells.symbol (c := '<') rfl spells
      have whole := (Spells.name valid.nonempty valid.nameChars).append opening (by simp)
        (stops_cons (by decide))
      have generic : DerivesType isArgument _ (arrays 0 (reference name (arg :: args))) :=
        .named 0 (.generic valid.toIsName valid.isReference derived) (by simp [arrays])
      exact ⟨_, by simpa [render] using whole, by simpa [arrays] using generic⟩

theorem WellFormed.writes {isArgument : Bool} {type : TypeDescriptor}
    (wellFormed : WellFormed isArgument type) :
    Writes type.render.toList (DerivesType isArgument · type) := by
  induction wellFormed with
  | primitive kind =>
      have valid : IsName kind.keyword := isTypeName_iff.mp (by cases kind <;> decide)
      have nameChars : ∀ c ∈ kind.keyword.toList, isNameChar c = true := by
        cases kind <;> exact List.all_eq_true.mp rfl
      exact writes_name valid nameChars (.reserved valid (.keyword kind)) (by simp)
  | boxed kind =>
      have valid : IsName kind.boxedName := isTypeName_iff.mp (by cases kind <;> decide)
      have nameChars : ∀ c ∈ kind.boxedName.toList, isNameChar c = true := by
        cases kind <;> exact List.all_eq_true.mp rfl
      exact writes_name valid nameChars (.reserved valid (.wrapper kind)) (by simp)
  | string =>
      have valid : IsName "String" := isTypeName_iff.mp (by decide)
      exact writes_name valid (List.all_eq_true.mp rfl) (.reserved valid .string) (by simp)
  | reference valid _ ih => exact writes_reference valid ih
  | wildcard _ ih => exact writes_wildcard ih
  | array _ ih => simpa [render] using writes_array ih

theorem parse_render {type : TypeDescriptor} (wellFormed : WellFormed false type) :
    parse type.render = .ok type := by
  obtain ⟨ts, spells, derived⟩ := wellFormed.writes
  have layout := spells [] [] (by simp [Stops]) .done
  rw [List.append_nil, List.append_nil] at layout
  exact parse_eq_ok_iff.mpr ⟨ts, layout, derived⟩

theorem wellFormed_of_parse {input : String} {type : TypeDescriptor}
    (read : parse input = .ok type) : WellFormed false type := by
  obtain ⟨ts, layout, derived⟩ := parse_eq_ok_iff.mp read
  exact derived.wellFormed layout.namesSpelled

/-- The types that are read back from their text are the well-formed ones, and these are all that
reading gives. -/
theorem parse_render_eq_ok_iff_wellFormed :
    (∀ type : TypeDescriptor, parse type.render = .ok type ↔ WellFormed false type) ∧
    (∀ (input : String) (type : TypeDescriptor), parse input = .ok type →
      WellFormed false type ∧ parse type.render = .ok type) := by
  refine ⟨fun type => ⟨wellFormed_of_parse, parse_render⟩, fun input type read => ?_⟩
  have wellFormed := wellFormed_of_parse read
  exact ⟨wellFormed, parse_render wellFormed⟩

end AdapterGen.TypeDescriptor
