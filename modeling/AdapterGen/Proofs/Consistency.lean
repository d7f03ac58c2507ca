import AdapterGen.Consistency
import AdapterGen.Proofs.Text.Ascending

/-!
# The warnings of a round

A type is warned about when it is registered more than once, and a generated target when nothing
registers it. Only how often each type is registered matters, not where.
-/

namespace AdapterGen

/-! ### Occurrences -/

/-- How often a type is registered, in all registrations together. -/
def occurrences (registrations : List Registration) (type : String) : Nat :=
  registrations.foldr (fun registration others => registration.types.count type + others) 0

theorem count_registeredTypes (registrations : List Registration) (type : String) :
    (registeredTypes registrations).count type = occurrences registrations type := by
  induction registrations with
  | nil => rfl
  | cons registration rest ih =>
      have split : registeredTypes (registration :: rest) =
          registration.types ++ registeredTypes rest := List.flatMap_cons
      rw [split, List.count_append, ih]
      rfl

theorem mem_registeredTypes_iff {registrations : List Registration} {type : String} :
    type ∈ registeredTypes registrations ↔ 0 < occurrences registrations type := by
  rw [← count_registeredTypes, List.count_pos_iff]

theorem not_mem_registeredTypes_iff {registrations : List Registration} {type : String} :
    type ∉ registeredTypes registrations ↔ occurrences registrations type = 0 := by
  rw [mem_registeredTypes_iff, Nat.not_lt, Nat.le_zero]

/-- Registrations rearranged: in another order, with the types of one of them in another order, or
with a type moved from one to the next. -/
inductive Rearranged : List Registration → List Registration → Prop
  | order {registrations others : List Registration} :
      registrations.Perm others → Rearranged registrations others
  | within {r : Registration} {types : List String} (front back : List Registration) :
      r.types.Perm types →
        Rearranged (front ++ r :: back) (front ++ { r with types := types } :: back)
  | move (front back : List Registration) (r s : Registration) {type : String}
      {types : List String} :
      r.types = type :: types →
        Rearranged (front ++ r :: s :: back)
          (front ++ { r with types := types } :: { s with types := type :: s.types } :: back)
  | trans {a b c : List Registration} : Rearranged a b → Rearranged b c → Rearranged a c

/-- Rearranging keeps how often each type is registered. -/
theorem Rearranged.occurrences_eq {registrations others : List Registration}
    (rearranged : Rearranged registrations others) (type : String) :
    occurrences others type = occurrences registrations type := by
  rw [← count_registeredTypes, ← count_registeredTypes]
  induction rearranged with
  | order permuted => exact ((permuted.flatMap_right _).count_eq type).symm
  | within front back permuted => simp [registeredTypes, permuted.count_eq]
  | move front back r s first =>
      simp only [registeredTypes, List.flatMap_append, List.flatMap_cons, List.count_append, first,
        List.count_cons]
      omega
  | trans _ _ ih ihNext => exact ihNext.trans ih

/-! ### Warnings -/

/-- Whether a generated target has no factory of its own and is in no registration. -/
def IsUnregistered (registrations : List Registration) (target : Target) : Prop :=
  target.flags.generateFactory = false ∧ ∀ r ∈ registrations, target.qualifiedName ∉ r.types

instance (registrations : List Registration) (target : Target) :
    Decidable (IsUnregistered registrations target) :=
  inferInstanceAs (Decidable (_ ∧ _))

/-- The warnings that are due: one for each type that is registered more than once, in ascending
order and with the number of its occurrences, then one for each unregistered target, in order. -/
def AreDue (generated : List Target) (registrations : List Registration)
    (warnings : List ConsistencyWarning) : Prop :=
  ∃ repeated : List String,
    repeated.Pairwise (· < ·) ∧
      (∀ type, type ∈ repeated ↔ 1 < occurrences registrations type) ∧
      warnings =
        repeated.map (fun type => .multiple type (occurrences registrations type)) ++
          (generated.filter (IsUnregistered registrations)).map fun t =>
            .notRegistered t.qualifiedName

theorem isUnregistered_iff {registrations : List Registration} {target : Target} :
    IsUnregistered registrations target ↔
      target.flags.generateFactory = false ∧
        occurrences registrations target.qualifiedName = 0 := by
  rw [← not_mem_registeredTypes_iff]
  simp [IsUnregistered, registeredTypes]

theorem areDue_checkConsistency (generated : List Target) (registrations : List Registration) :
    AreDue generated registrations (checkConsistency generated registrations) := by
  refine ⟨(Text.ascending (registeredTypes registrations)).filter
    (1 < (registeredTypes registrations).count ·), ?_, ?_, ?_⟩
  · exact (Text.pairwise_ascending _).filter _
  · intro type
    rw [List.mem_filter, Text.mem_ascending, mem_registeredTypes_iff, count_registeredTypes,
      decide_eq_true_iff]
    omega
  · unfold checkConsistency
    simp only [count_registeredTypes]
    congr 2
    apply List.filter_congr
    intro target _
    simp [isUnregistered_iff, ← not_mem_registeredTypes_iff]

/-- Only one list of warnings is due. -/
theorem AreDue.unique {generated : List Target} {registrations : List Registration}
    {warnings others : List ConsistencyWarning} (due : AreDue generated registrations warnings)
    (dueAlso : AreDue generated registrations others) : warnings = others := by
  obtain ⟨repeated, ascends, isRepeated, rfl⟩ := due
  obtain ⟨repeatedAlso, ascendsAlso, isRepeatedAlso, rfl⟩ := dueAlso
  obtain rfl : repeated = repeatedAlso :=
    Text.eq_of_ascends ascends ascendsAlso fun type =>
      (isRepeated type).trans (isRepeatedAlso type).symm
  rfl

/-- Registrations that name each type equally often have the same warnings. -/
theorem checkConsistency_congr (generated : List Target) {registrations others : List Registration}
    (same : ∀ type, occurrences others type = occurrences registrations type) :
    checkConsistency generated others = checkConsistency generated registrations := by
  obtain ⟨repeated, ascends, isRepeated, warnings⟩ := areDue_checkConsistency generated others
  apply AreDue.unique ⟨repeated, ascends, isRepeated, warnings⟩
  obtain ⟨repeated, ascends, isRepeated, warnings⟩ :=
    areDue_checkConsistency generated registrations
  refine ⟨repeated, ascends, fun type => by rw [isRepeated, same], ?_⟩
  simp only [warnings, same, isUnregistered_iff]

theorem AreDue.occurrences_of_multiple {generated : List Target}
    {registrations : List Registration} {warnings : List ConsistencyWarning}
    (due : AreDue generated registrations warnings) {type : String} {count : Nat}
    (warned : .multiple type count ∈ warnings) : 1 < occurrences registrations type := by
  obtain ⟨repeated, -, isRepeated, rfl⟩ := due
  rcases List.mem_append.mp warned with first | second
  · obtain ⟨_, found, same⟩ := List.mem_map.mp first
    obtain ⟨rfl, -⟩ := ConsistencyWarning.multiple.inj same
    exact (isRepeated _).mp found
  · obtain ⟨_, -, differs⟩ := List.mem_map.mp second
    nomatch differs

theorem AreDue.occurrences_of_notRegistered {generated : List Target}
    {registrations : List Registration} {warnings : List ConsistencyWarning}
    (due : AreDue generated registrations warnings) {type : String}
    (warned : .notRegistered type ∈ warnings) : occurrences registrations type = 0 := by
  obtain ⟨repeated, -, -, rfl⟩ := due
  rcases List.mem_append.mp warned with first | second
  · obtain ⟨_, -, differs⟩ := List.mem_map.mp first
    nomatch differs
  · obtain ⟨target, found, same⟩ := List.mem_map.mp second
    obtain rfl := ConsistencyWarning.notRegistered.inj same
    exact (isUnregistered_iff.mp (of_decide_eq_true (List.mem_filter.mp found).2)).2

/-- The warnings are those that are due and no others. No type is warned about in both ways, and
the warnings stay the same however the registrations are rearranged. -/
theorem checkConsistency_warns_as_due (generated : List Target)
    (registrations : List Registration) :
    (∀ warnings, checkConsistency generated registrations = warnings ↔
        AreDue generated registrations warnings) ∧
      (∀ type count, .multiple type count ∈ checkConsistency generated registrations →
        .notRegistered type ∉ checkConsistency generated registrations) ∧
      ∀ others, Rearranged registrations others →
        checkConsistency generated others = checkConsistency generated registrations := by
  have due := areDue_checkConsistency generated registrations
  refine ⟨fun warnings => ?_, fun type count multiple missing => ?_, fun others rearranged => ?_⟩
  · constructor
    · rintro rfl
      exact due
    · exact due.unique
  · have often := due.occurrences_of_multiple multiple
    have never := due.occurrences_of_notRegistered missing
    omega
  · exact checkConsistency_congr generated rearranged.occurrences_eq

/-- A type that one registration names twice is moved in part to another one, which comes first
then. -/
theorem checkConsistency_of_moved_type :
    let target (name : String) : Target := { qualifiedName := name }
    let generated := [target "a.C", target "a.B", target "a.A"]
    let registrations : List Registration := [⟨none, "F", none, ["a.A", "a.B", "a.A"]⟩,
      ⟨none, "G", none, ["a.B"]⟩]
    let others : List Registration := [⟨none, "G", none, ["a.A", "a.B"]⟩,
      ⟨none, "F", none, ["a.B", "a.A"]⟩]
    Rearranged registrations others ∧
      checkConsistency generated others =
        [.multiple "a.A" 2, .multiple "a.B" 2, .notRegistered "a.C"] := by
  intro target generated registrations others
  have rearranged : Rearranged registrations others :=
    .trans (.move [] [] _ _ rfl) (.order (.swap _ _ _))
  obtain ⟨-, -, same⟩ := checkConsistency_warns_as_due generated registrations
  exact ⟨rearranged, (same others rearranged).trans (by decide)⟩

end AdapterGen
