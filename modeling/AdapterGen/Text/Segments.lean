/-!
# Segments

Splitting at a separator and joining again. Splitting keeps empty segments, so
`joinChars_segments` gives the text back.
-/

namespace AdapterGen.Text

/-- The pieces between the separating characters; there is always at least one. -/
def segmentsBy (isSep : Char → Bool) : List Char → List (List Char)
  | [] => [[]]
  | c :: rest =>
      if isSep c then [] :: segmentsBy isSep rest
      else
        match segmentsBy isSep rest with
        | [] => [[c]]
        | piece :: pieces => (c :: piece) :: pieces

theorem segmentsBy_ne_nil (isSep : Char → Bool) (cs : List Char) : segmentsBy isSep cs ≠ [] := by
  cases cs with
  | nil => simp [segmentsBy]
  | cons c rest =>
      simp only [segmentsBy]
      split
      · simp
      · split <;> simp

/-- The pieces between the occurrences of one separator. -/
def segments (sep : Char) (cs : List Char) : List (List Char) := segmentsBy (· == sep) cs

/-- Puts a separator between pieces. -/
def joinChars (sep : Char) : List (List Char) → List Char
  | [] => []
  | [piece] => piece
  | piece :: next :: pieces => piece ++ sep :: joinChars sep (next :: pieces)

theorem joinChars_segments (sep : Char) (cs : List Char) :
    joinChars sep (segments sep cs) = cs := by
  unfold segments
  induction cs with
  | nil => rfl
  | cons c rest ih =>
      simp only [segmentsBy]
      split
      · rename_i h
        cases hs : segmentsBy (· == sep) rest with
        | nil => exact absurd hs (segmentsBy_ne_nil _ rest)
        | cons piece pieces =>
            rw [hs] at ih
            simp [joinChars, ih, eq_of_beq h]
      · cases hs : segmentsBy (· == sep) rest with
        | nil => exact absurd hs (segmentsBy_ne_nil _ rest)
        | cons piece pieces =>
            rw [hs] at ih
            cases pieces with
            | nil => simpa [joinChars] using ih
            | cons next more => simpa [joinChars] using ih

/-- The texts between the occurrences of a separator. -/
def splitAt (sep : Char) (s : String) : List String :=
  (segments sep s.toList).map String.ofList

/-- Texts one after another with a separator between them. -/
def join (sep : String) : List String → String
  | [] => ""
  | [piece] => piece
  | piece :: next :: pieces => piece ++ sep ++ join sep (next :: pieces)

/-- Texts one after another. -/
def concat : List String → String
  | [] => ""
  | piece :: pieces => piece ++ concat pieces

theorem concat_append (xs ys : List String) : concat (xs ++ ys) = concat xs ++ concat ys := by
  induction xs with
  | nil => simp [concat]
  | cons x xs ih => simp [concat, ih, String.append_assoc]

/-- A text written several times. -/
def repeated : Nat → String → String
  | 0, _ => ""
  | n + 1, s => s ++ repeated n s

theorem repeated_add (m n : Nat) (s : String) :
    repeated (m + n) s = repeated m s ++ repeated n s := by
  induction m with
  | zero => simp [repeated]
  | succ m ih => simp [Nat.succ_add, repeated, ih, String.append_assoc]

end AdapterGen.Text
