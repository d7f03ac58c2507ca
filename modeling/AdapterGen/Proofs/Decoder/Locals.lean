import AdapterGen.Emission.Locals
import AdapterGen.Proofs.Java.Expression

/-!
# The locals of a decoder are apart

Every field gets a local. It is the field's name with underscores at its end,
it is no reserved name, and fields of different names get different locals.

## Implementation notes

A fresh name exists because there is one candidate more than there are names to
avoid, and the candidates differ in length. The pairs assigned so far carry the
invariant: each local is taken, and a local that was made up is no field's name.

-/

namespace AdapterGen.Emission

/-! ### Reserved names -/

/-- The names that a decoder's body refers to are names of the language. -/
theorem isIdentifier_of_mem_reservedLocals : ∀ x ∈ reservedLocals, Java.IsIdentifier x := by
  decide +kernel

theorem boxedName_mem_reservedLocals (kind : PrimitiveKind) : kind.boxedName ∈ reservedLocals := by
  cases kind <;> simp [reservedLocals, PrimitiveKind.boxedName]

/-! ### Fresh names -/

theorem length_repeated (n : Nat) (s : String) :
    (Text.repeated n s).length = n * s.length := by
  induction n with
  | zero => simp [Text.repeated]
  | succ n ih => simp [Text.repeated, ih, Nat.succ_mul, Nat.add_comm]

theorem length_withUnderscores (name : String) (n : Nat) :
    (withUnderscores name n).length = name.length + n := by
  have one : "_".length = 1 := by decide
  simp [withUnderscores, length_repeated, one]

theorem withUnderscores_injective {name : String} {m n : Nat}
    (same : withUnderscores name m = withUnderscores name n) : m = n := by
  have lengths := congrArg String.length same
  rw [length_withUnderscores, length_withUnderscores] at lengths
  omega

/-- One of the candidates for a fresh name is not to be avoided, and the shortest such one is
taken. -/
theorem exists_freshName (avoid : List String) (name : String) :
    ∃ n, freshName avoid name = withUnderscores name n ∧ withUnderscores name n ∉ avoid ∧
      ∀ m < n, withUnderscores name m ∈ avoid := by
  unfold freshName
  split
  · rename_i fresh found
    rw [List.find?_map, Option.map_eq_some_iff] at found
    obtain ⟨n, found, rfl⟩ := found
    obtain ⟨free, -, earlier⟩ := List.find?_range_eq_some.mp found
    exact ⟨n, rfl, by simpa using free, by simpa using earlier⟩
  · rename_i noneFound
    have distinct : ((List.range (avoid.length + 1)).map (withUnderscores name)).Nodup :=
      List.pairwise_map.mpr (List.nodup_range.imp fun apart same =>
        apart (withUnderscores_injective same))
    have allAvoided : (List.range (avoid.length + 1)).map (withUnderscores name) ⊆ avoid := by
      intro candidate isCandidate
      have avoided := List.find?_eq_none.mp noneFound candidate isCandidate
      simpa using avoided
    have tooMany := distinct.length_le_of_subset allAvoided
    rw [List.length_map, List.length_range] at tooMany
    omega

/-! ### The invariant of the assignment -/

/-- A local that a field of a name may get. -/
structure LocalFor (reserved taken names : List String) (name x : String) : Prop where
  underscores : ∃ n, x = withUnderscores name n
  notReserved : x ∉ reserved
  isTaken : x ∈ taken
  kept : name ∉ reserved → x = name
  notName : name ∈ reserved → x ∉ names

/-- Pairs of a name and its local, different names with different locals. -/
structure Assigned (reserved taken names : List String) (assigned : List (String × String)) :
    Prop where
  localFor : ∀ p ∈ assigned, LocalFor reserved taken names p.1 p.2
  apart : ∀ p ∈ assigned, ∀ q ∈ assigned, p.1 ≠ q.1 → p.2 ≠ q.2

section

variable {reserved taken names : List String} {assigned : List (String × String)}

theorem LocalFor.mono {name x : String} (isLocal : LocalFor reserved taken names name x)
    (fresh : String) : LocalFor reserved (fresh :: taken) names name x :=
  { isLocal with isTaken := List.mem_cons_of_mem fresh isLocal.isTaken }

/-- A pair whose local is apart from the others keeps the invariant. -/
theorem Assigned.cons {name x : String} (before : Assigned reserved taken names assigned)
    (isLocal : LocalFor reserved taken names name x)
    (others : ∀ q ∈ assigned, name ≠ q.1 → x ≠ q.2) :
    Assigned reserved taken names ((name, x) :: assigned) where
  localFor := by
    intro p found
    rcases List.mem_cons.mp found with rfl | earlier
    · exact isLocal
    · exact before.localFor p earlier
  apart := by
    intro p foundP q foundQ different
    rcases List.mem_cons.mp foundP with rfl | earlierP
    · rcases List.mem_cons.mp foundQ with rfl | earlierQ
      · exact absurd rfl different
      · exact others q earlierQ different
    · rcases List.mem_cons.mp foundQ with rfl | earlierQ
      · exact (others p earlierP different.symm).symm
      · exact before.apart p earlierP q earlierQ different

theorem Assigned.keep {name : String} (before : Assigned reserved taken names assigned)
    (isName : name ∈ names) (isTaken : name ∈ taken) (free : name ∉ reserved) :
    Assigned reserved taken names ((name, name) :: assigned) := by
  have isLocal : LocalFor reserved taken names name name :=
    ⟨⟨0, by simp [withUnderscores, Text.repeated]⟩, free, isTaken, fun _ => rfl,
      fun isReserved => absurd isReserved free⟩
  refine before.cons isLocal fun q earlier different same => ?_
  by_cases isReserved : q.1 ∈ reserved
  · exact (before.localFor q earlier).notName isReserved (same ▸ isName)
  · exact different (same.trans ((before.localFor q earlier).kept isReserved))

theorem Assigned.rename {name : String} (before : Assigned reserved taken names assigned)
    (namesTaken : names ⊆ taken) (isReserved : name ∈ reserved) :
    Assigned reserved (freshName (reserved ++ taken) name :: taken) names
      ((name, freshName (reserved ++ taken) name) :: assigned) := by
  obtain ⟨n, isFresh, notAvoided, -⟩ := exists_freshName (reserved ++ taken) name
  rw [← isFresh] at notAvoided
  obtain ⟨notReserved, notTaken⟩ := not_or.mp (mt List.mem_append.mpr notAvoided)
  have widened : Assigned reserved (freshName (reserved ++ taken) name :: taken) names assigned :=
    ⟨fun p found => (before.localFor p found).mono _, before.apart⟩
  have isLocal : LocalFor reserved (freshName (reserved ++ taken) name :: taken) names name
      (freshName (reserved ++ taken) name) :=
    ⟨⟨n, isFresh⟩, notReserved, List.mem_cons_self, fun free => absurd isReserved free,
      fun _ isName => notTaken (namesTaken isName)⟩
  refine widened.cons isLocal fun q earlier _ same => notTaken ?_
  exact same ▸ (before.localFor q earlier).isTaken

/-- The assignment keeps the invariant, and reaches every name. -/
theorem Assigned.assignLocals {rest : List String}
    (before : Assigned reserved taken names assigned) (namesTaken : names ⊆ taken)
    (areNames : rest ⊆ names) :
    (∃ later, Assigned reserved later names (assignLocals reserved taken assigned rest)) ∧
    ∀ name, (name ∈ rest ∨ name ∈ assigned.map (·.1)) →
      name ∈ (assignLocals reserved taken assigned rest).map (·.1) := by
  induction rest generalizing taken assigned with
  | nil => exact ⟨⟨taken, before⟩, fun name found => by simpa [Emission.assignLocals] using found⟩
  | cons name rest ih =>
      obtain ⟨isName, areNames⟩ := List.cons_subset.mp areNames
      have reached (x : String) : ∀ other, (other ∈ name :: rest ∨ other ∈ assigned.map (·.1)) →
          (other ∈ rest ∨ other ∈ ((name, x) :: assigned).map (·.1)) := by
        intro other found
        simp only [List.mem_cons, List.map_cons] at found ⊢
        rcases found with (rfl | later) | earlier
        · exact .inr (.inl rfl)
        · exact .inl later
        · exact .inr (.inr earlier)
      unfold Emission.assignLocals
      split
      · rename_i isReserved
        have renamed := before.rename namesTaken (by simpa using isReserved)
        obtain ⟨kept, all⟩ := ih renamed (List.subset_cons_of_subset _ namesTaken) areNames
        exact ⟨kept, fun other found => all other (reached _ other found)⟩
      · rename_i free
        have keptName := before.keep isName (namesTaken isName) (by simpa using free)
        obtain ⟨kept, all⟩ := ih keptName namesTaken areNames
        exact ⟨kept, fun other found => all other (reached _ other found)⟩

end

/-! ### The local of a field -/

variable {fields : List Field}

/-- A field to whose name a local was assigned has that local. -/
theorem lookup_eq_some_localOf {locals : List (String × String)} {field : Field}
    (found : field.name ∈ locals.map (·.1)) :
    locals.lookup field.name = some (localOf locals field) := by
  unfold localOf
  cases looked : locals.lookup field.name with
  | none =>
      obtain ⟨p, isPair, sameName⟩ := List.mem_map.mp found
      have missing := List.lookup_eq_none_iff.mp looked p isPair
      simp [sameName] at missing
  | some x => rfl

/-- The local of a field is one that was assigned to its name. -/
theorem localOf_mem {locals : List (String × String)} {field : Field}
    (found : field.name ∈ locals.map (·.1)) : (field.name, localOf locals field) ∈ locals := by
  have looked := lookup_eq_some_localOf found
  generalize localOf locals field = x at looked ⊢
  obtain ⟨front, back, rfl, -⟩ := List.lookup_eq_some_iff.mp looked
  simp

/-- The locals of a decoder keep the invariant, and every field has one. -/
theorem localNames_assigned (targetName : String) (fields : List Field) :
    (∃ taken, Assigned (reservedLocals ++ rootsOf targetName fields) taken (fields.map (·.name))
      (localNames targetName fields)) ∧
    ∀ field ∈ fields,
      (field.name, localOf (localNames targetName fields) field) ∈
        localNames targetName fields := by
  have start : Assigned (reservedLocals ++ rootsOf targetName fields) (fields.map (·.name))
      (fields.map (·.name)) [] := ⟨by simp, by simp⟩
  obtain ⟨kept, all⟩ := start.assignLocals (List.Subset.refl _) (List.Subset.refl _)
  refine ⟨kept, fun field found => localOf_mem (all field.name (.inl ?_))⟩
  exact List.mem_map_of_mem found

/-- The local of a field is its name with underscores at its end, and is not reserved. -/
theorem localOf_spec (targetName : String) {field : Field} (found : field ∈ fields) :
    (∃ n, localOf (localNames targetName fields) field = withUnderscores field.name n) ∧
    localOf (localNames targetName fields) field ∉ reservedLocals := by
  obtain ⟨⟨taken, kept⟩, all⟩ := localNames_assigned targetName fields
  have isLocal := kept.localFor _ (all field found)
  exact ⟨isLocal.underscores, fun isReserved =>
    isLocal.notReserved (List.mem_append_left _ isReserved)⟩

/-- Fields of different names have different locals. -/
theorem localOf_ne_localOf (targetName : String) {field other : Field} (found : field ∈ fields)
    (foundOther : other ∈ fields) (different : field.name ≠ other.name) :
    localOf (localNames targetName fields) field ≠
      localOf (localNames targetName fields) other := by
  obtain ⟨⟨taken, kept⟩, all⟩ := localNames_assigned targetName fields
  exact kept.apart _ (all field found) _ (all other foundOther) different

end AdapterGen.Emission
