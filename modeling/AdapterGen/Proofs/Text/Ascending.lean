import AdapterGen.Text.Ascending
import Mathlib.Data.List.Sort
import Mathlib.Data.String.Basic

/-!
# Laws of ascending lists

Adding a text keeps a list strictly ascending by code points, and there is one such list of any set
of texts.
-/

namespace AdapterGen.Text

theorem pairwise_insertAscending {s : String} {l : List String} (ascends : l.Pairwise (· < ·)) :
    (insertAscending s l).Pairwise (· < ·) := by
  induction l with
  | nil => exact List.pairwise_singleton _ s
  | cons head rest ih =>
      obtain ⟨below, ascendsRest⟩ := List.pairwise_cons.mp ascends
      rw [insertAscending]
      split
      · rename_i before
        refine List.pairwise_cons.mpr ⟨fun t found => ?_, ascends⟩
        rcases List.mem_cons.mp found with rfl | later
        · exact before
        · exact before.trans (below t later)
      · split
        · exact ascends
        · rename_i notBefore differs
          have after : head < s := lt_of_le_of_ne (not_lt.mp notBefore) (Ne.symm differs)
          refine List.pairwise_cons.mpr ⟨fun t found => ?_, ih ascendsRest⟩
          rcases mem_insertAscending.mp found with rfl | later
          · exact after
          · exact below t later

theorem pairwise_ascending (texts : List String) : (ascending texts).Pairwise (· < ·) := by
  induction texts with
  | nil => exact .nil
  | cons s rest ih => exact pairwise_insertAscending ih

/-- An ascending list is determined by its members. -/
theorem eq_of_ascends {l other : List String} (ascends : l.Pairwise (· < ·))
    (otherAscends : other.Pairwise (· < ·)) (same : ∀ t, t ∈ l ↔ t ∈ other) : l = other :=
  ascends.eq_of_mem_iff otherAscends same

end AdapterGen.Text
