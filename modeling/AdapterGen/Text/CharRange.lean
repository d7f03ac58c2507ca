/-!
# Sets of characters given by code point ranges

A set is an ascending list of inclusive ranges, as the tables of the Unicode
character database are written.
-/

namespace AdapterGen.Text

/-- An ascending list of inclusive, disjoint ranges of code points. -/
abbrev CharRanges := List (Nat × Nat)

/-- Whether a code point lies in one of the ranges; the search ends at the first later range. -/
def CharRanges.covers : CharRanges → Nat → Bool
  | [], _ => false
  | (first, last) :: rest, n =>
      if n < first then false else n ≤ last || CharRanges.covers rest n

/-- Membership of a character. -/
def CharRanges.has (ranges : CharRanges) (c : Char) : Bool := ranges.covers c.toNat

theorem CharRanges.exists_of_covers {ranges : CharRanges} {n : Nat}
    (h : ranges.covers n = true) : ∃ r ∈ ranges, r.1 ≤ n ∧ n ≤ r.2 := by
  induction ranges with
  | nil => simp [covers] at h
  | cons r rest ih =>
      obtain ⟨first, last⟩ := r
      simp only [covers] at h
      split at h
      · contradiction
      · rename_i hlow
        rcases (Bool.or_eq_true _ _).mp h with hhere | hlater
        · exact ⟨(first, last), by simp, by simp_all⟩
        · obtain ⟨r, hr, bounds⟩ := ih hlater
          exact ⟨r, by simp [hr], bounds⟩

end AdapterGen.Text
