import AdapterGen.Text.Uppercase

/-!
# Laws of uppercase forms

The uppercase form of a character is never empty, and an underscore comes of an underscore alone.

## Implementation notes

The table is searched, not computed over all characters: a run of mappings gives an underscore only
at one code point, and no run covers the one it would have to.
-/

namespace AdapterGen.Text

/-- A character without an uppercase form is its own; any other form is that of an entry or of a run
of the table. -/
theorem uppercase_cases (c : Char) :
    (∃ codes, (c.toNat, codes) ∈ expandingCases ∧ uppercase c = codes.map Char.ofNat) ∨
      (∃ run ∈ caseRuns, run.covers c.toNat = true ∧
        uppercase c = [Char.ofNat (c.toNat + run.shift).toNat]) ∨
      uppercase c = [c] := by
  unfold uppercase
  split
  · rename_i codes found
    obtain ⟨before, after, table, -⟩ := List.lookup_eq_some_iff.mp found
    have isEntry : (c.toNat, codes) ∈ expandingCases := by simp [table]
    exact .inl ⟨codes, isEntry, rfl⟩
  · split
    · rename_i run found
      have covers : run.covers c.toNat = true := by
        simpa using List.find?_some found
      exact .inr (.inl ⟨run, List.mem_of_find?_eq_some found, covers, rfl⟩)
    · exact .inr (.inr rfl)

theorem expandingCases_plain :
    ∀ entry ∈ expandingCases, entry.2 ≠ [] ∧ '_' ∉ entry.2.map Char.ofNat := by
  decide

/-- No run moves a character to the underscore. -/
theorem caseRuns_plain :
    ∀ run ∈ caseRuns, run.covers ('_'.toNat - run.shift).toNat = false := by
  decide +kernel

/-- Only its own code gives a character that is not the null character. -/
theorem code_of_ofNat {c : Char} (notNull : c ≠ '\x00') {n : Nat} (same : Char.ofNat n = c) :
    n = c.toNat := by
  subst same
  by_cases valid : n.isValidChar
  · unfold Char.ofNat
    rw [dif_pos valid]
    rfl
  · have isNull : Char.ofNat n = '\x00' := by
      unfold Char.ofNat
      rw [dif_neg valid]
      rfl
    exact absurd isNull notNull

theorem uppercase_ne_nil (c : Char) : uppercase c ≠ [] := by
  rcases uppercase_cases c with ⟨codes, isEntry, form⟩ | ⟨run, -, -, form⟩ | form
  · rw [form, Ne, List.map_eq_nil_iff]
    exact (expandingCases_plain _ isEntry).1
  · simp [form]
  · simp [form]

theorem underscore_mem_uppercase_iff (c : Char) : '_' ∈ uppercase c ↔ c = '_' := by
  constructor
  · intro found
    rcases uppercase_cases c with ⟨codes, isEntry, form⟩ | ⟨run, isRun, covers, form⟩ | form
    · rw [form] at found
      exact absurd found (expandingCases_plain _ isEntry).2
    · rw [form, List.mem_singleton] at found
      have code := code_of_ofNat (by decide) found.symm
      have underscore : '_'.toNat = 95 := by decide
      have start : c.toNat = ('_'.toNat - run.shift).toNat := by omega
      rw [start, caseRuns_plain run isRun] at covers
      nomatch covers
    · rw [form, List.mem_singleton] at found
      exact found.symm
  · rintro rfl
    decide

end AdapterGen.Text
