/-!
# Ascending lists of texts

Sets of texts kept in ascending order of code points.
-/

namespace AdapterGen.Text

/-- Adds a text to an ascending list unless it is there. -/
def insertAscending (s : String) : List String → List String
  | [] => [s]
  | head :: rest =>
      if s < head then s :: head :: rest
      else if s = head then head :: rest
      else head :: insertAscending s rest

theorem mem_insertAscending {s t : String} {l : List String} :
    t ∈ insertAscending s l ↔ t = s ∨ t ∈ l := by
  induction l with
  | nil => simp [insertAscending]
  | cons head rest ih =>
      simp only [insertAscending]
      split
      · simp
      · split
        · rename_i h
          simp [h]
        · simp only [List.mem_cons, ih]
          grind

/-- Some texts in ascending order, each once. -/
def ascending (texts : List String) : List String :=
  texts.foldr insertAscending []

theorem mem_ascending {t : String} {texts : List String} : t ∈ ascending texts ↔ t ∈ texts := by
  induction texts with
  | nil => simp [ascending]
  | cons s rest ih =>
      have unfolded : ascending (s :: rest) = insertAscending s (ascending rest) := rfl
      rw [unfolded, mem_insertAscending, ih, List.mem_cons]

end AdapterGen.Text
