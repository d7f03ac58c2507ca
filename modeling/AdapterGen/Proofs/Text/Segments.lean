import AdapterGen.Text.Segments

/-!
# Laws of splitting

Splitting at a separator, piece by piece and across an append, and joining the pieces again.
-/

namespace AdapterGen.Text

theorem segments_cons_self (sep : Char) (cs : List Char) :
    segments sep (sep :: cs) = [] :: segments sep cs := by
  simp [segments, segmentsBy]

theorem segments_cons_of_ne {sep c : Char} (other : c ≠ sep) {cs piece : List Char}
    {pieces : List (List Char)} (found : segments sep cs = piece :: pieces) :
    segments sep (c :: cs) = (c :: piece) :: pieces := by
  unfold segments at found ⊢
  simp [segmentsBy, other, found]

theorem exists_segments_eq_cons (sep : Char) (cs : List Char) :
    ∃ piece pieces, segments sep cs = piece :: pieces :=
  List.exists_cons_of_ne_nil (segmentsBy_ne_nil _ cs)

theorem head?_segments_eq_nil_iff {sep : Char} {cs : List Char} :
    (segments sep cs).head? = some [] ↔ cs = [] ∨ cs.head? = some sep := by
  cases cs with
  | nil => simp [segments, segmentsBy]
  | cons c rest =>
      by_cases first : c = sep
      · subst first
        simp [segments_cons_self]
      · obtain ⟨piece, pieces, found⟩ := exists_segments_eq_cons sep rest
        simp [segments_cons_of_ne first found, first]

/-- An empty piece after the first arises at the end or between two separators. -/
theorem nil_mem_tail_segments_iff {sep : Char} {cs : List Char} :
    [] ∈ (segments sep cs).tail ↔ cs.getLast? = some sep ∨ [sep, sep] <:+: cs := by
  induction cs with
  | nil => simp [segments, segmentsBy]
  | cons c rest ih =>
      obtain ⟨piece, pieces, found⟩ := exists_segments_eq_cons sep rest
      have headIff : (segments sep rest).head? = some [] ↔ _ := head?_segments_eq_nil_iff
      rw [found] at ih headIff
      simp only [List.head?_cons, Option.some.injEq, List.tail_cons] at headIff ih
      by_cases first : c = sep
      · subst first
        rw [segments_cons_self, List.tail_cons, found, List.mem_cons, ih, eq_comm, headIff,
          List.infix_cons_iff]
        cases rest with
        | nil => simp
        | cons d more => simp [List.cons_prefix_cons, eq_comm, or_left_comm]
      · rw [segments_cons_of_ne first found, List.tail_cons, ih, List.infix_cons_iff]
        cases rest with
        | nil => simp [first]
        | cons d more => simp [List.cons_prefix_cons, Ne.symm first]

/-- Splitting gives an empty piece at an end that is a separator and between two separators. -/
theorem nil_mem_segments_iff {sep : Char} {cs : List Char} :
    [] ∈ segments sep cs ↔
      cs = [] ∨ cs.head? = some sep ∨ cs.getLast? = some sep ∨ [sep, sep] <:+: cs := by
  obtain ⟨piece, pieces, found⟩ := exists_segments_eq_cons sep cs
  have headIff : (segments sep cs).head? = some [] ↔ _ := head?_segments_eq_nil_iff
  have tailIff : [] ∈ (segments sep cs).tail ↔ _ := nil_mem_tail_segments_iff
  rw [found] at headIff tailIff ⊢
  simp only [List.head?_cons, Option.some.injEq, List.tail_cons] at headIff tailIff
  rw [List.mem_cons, eq_comm, headIff, tailIff, or_assoc]

theorem mem_of_mem_segments {sep c : Char} {cs piece : List Char}
    (isPiece : piece ∈ segments sep cs) (found : c ∈ piece) : c ∈ cs ∧ c ≠ sep := by
  induction cs generalizing piece with
  | nil =>
      obtain rfl : piece = [] := by simpa [segments, segmentsBy] using isPiece
      simp at found
  | cons d rest ih =>
      by_cases isSep : d = sep
      · subst isSep
        rw [segments_cons_self] at isPiece
        rcases List.mem_cons.mp isPiece with rfl | later
        · simp at found
        · obtain ⟨inRest, other⟩ := ih later found
          exact ⟨List.mem_cons_of_mem d inRest, other⟩
      · obtain ⟨first, pieces, shape⟩ := exists_segments_eq_cons sep rest
        rw [segments_cons_of_ne isSep shape] at isPiece
        rcases List.mem_cons.mp isPiece with rfl | later
        · rcases List.mem_cons.mp found with rfl | inFirst
          · exact ⟨List.mem_cons_self, isSep⟩
          · obtain ⟨inRest, other⟩ := ih (shape ▸ List.mem_cons_self) inFirst
            exact ⟨List.mem_cons_of_mem d inRest, other⟩
        · obtain ⟨inRest, other⟩ := ih (shape ▸ List.mem_cons_of_mem first later) found
          exact ⟨List.mem_cons_of_mem d inRest, other⟩

theorem toList_join (pieces : List String) :
    (join "." pieces).toList = joinChars '.' (pieces.map String.toList) := by
  induction pieces with
  | nil => rfl
  | cons piece pieces ih =>
      cases pieces with
      | nil => rfl
      | cons next pieces => simp [join, joinChars, ih]

theorem toList_concat (pieces : List String) :
    (concat pieces).toList = pieces.flatMap String.toList := by
  induction pieces with
  | nil => rfl
  | cons piece pieces ih => simp [concat, ih]

theorem join_splitAt (s : String) : join "." (splitAt '.' s) = s := by
  rw [← String.toList_inj, toList_join]
  simp [splitAt, joinChars_segments, Function.comp_def]

theorem splitAt_ne_nil (sep : Char) (s : String) : splitAt sep s ≠ [] := by
  simp [splitAt, segments, segmentsBy_ne_nil]

/-! ### Splitting at any of several separators -/

section

variable {isSep : Char → Bool}

theorem segmentsBy_of_forall {cs : List Char} (noSep : ∀ c ∈ cs, isSep c = false) :
    segmentsBy isSep cs = [cs] := by
  induction cs with
  | nil => rfl
  | cons c rest ih =>
      obtain ⟨first, others⟩ := List.forall_mem_cons.mp noSep
      simp [segmentsBy, first, ih others]

theorem segmentsBy_append_cons {sep : Char} (separates : isSep sep = true)
    (front back : List Char) :
    segmentsBy isSep (front ++ sep :: back) = segmentsBy isSep front ++ segmentsBy isSep back := by
  induction front with
  | nil => simp [segmentsBy, separates]
  | cons c rest ih =>
      rw [List.cons_append, segmentsBy, segmentsBy, ih]
      split
      · rfl
      · obtain ⟨piece, pieces, shape⟩ :=
          List.exists_cons_of_ne_nil (segmentsBy_ne_nil isSep rest)
        simp [shape]

/-- The pieces with something in them are those on either side of separators. -/
theorem mem_segmentsBy_append {seps piece : List Char} (some : seps ≠ [])
    (separate : ∀ c ∈ seps, isSep c = true) (filled : piece ≠ []) (front back : List Char) :
    piece ∈ segmentsBy isSep (front ++ (seps ++ back)) ↔
      piece ∈ segmentsBy isSep front ∨ piece ∈ segmentsBy isSep back := by
  obtain ⟨sep, more, rfl⟩ := List.exists_cons_of_ne_nil some
  obtain ⟨first, others⟩ := List.forall_mem_cons.mp separate
  have behind : piece ∈ segmentsBy isSep (more ++ back) ↔ piece ∈ segmentsBy isSep back := by
    clear some separate first
    induction more with
    | nil => rfl
    | cons next more ih =>
        obtain ⟨isNext, others⟩ := List.forall_mem_cons.mp others
        simp [segmentsBy, isNext, filled, ih others]
  rw [List.cons_append, segmentsBy_append_cons first, List.mem_append, behind]

end

theorem segments_of_not_mem {sep : Char} {cs : List Char} (free : sep ∉ cs) :
    segments sep cs = [cs] := by
  apply segmentsBy_of_forall
  intro c found
  exact beq_false_of_ne fun same => free (same ▸ found)

theorem segments_append_cons (sep : Char) (front back : List Char) :
    segments sep (front ++ sep :: back) = segments sep front ++ segments sep back := by
  unfold segments
  exact segmentsBy_append_cons (by simp) front back

end AdapterGen.Text
