import AdapterGen.Naming
import AdapterGen.Proofs.Text.Segments
import AdapterGen.Proofs.Text.Uppercase

/-!
# Camel case as a normal form

Camel case joins the words of an underscored name: the first as it is, each later one with its first
character in uppercase. The result has no underscore, and a name is its own camel case just when it
has none.

## Implementation notes

Once there is a result, an underscore always asks for a capital, so the scan is followed from there
for either flag. Underscores before the first word leave the scan as it began.
-/

namespace AdapterGen.Naming

/-! ### Words -/

/-- The words of an underscored name: what stands between underscores, if anything does. -/
def words (s : String) : List String := (Text.splitAt '_' s).filter (· ≠ "")

theorem words_append (s t : String) : words (s ++ "_" ++ t) = words s ++ words t := by
  have chars : (s ++ "_" ++ t).toList = s.toList ++ '_' :: t.toList := by simp
  simp only [words, Text.splitAt, chars, Text.segments_append_cons, List.map_append,
    List.filter_append]

theorem words_empty : words "" = [] := by decide

theorem words_of_not_mem {s : String} (free : '_' ∉ s.toList) :
    words s = if s = "" then [] else [s] := by
  rw [words, Text.splitAt, Text.segments_of_not_mem free]
  by_cases isEmpty : s = "" <;> simp [isEmpty]

theorem not_mem_of_mem_words {s word : String} (isWord : word ∈ words s) : '_' ∉ word.toList := by
  obtain ⟨piece, isPiece, rfl⟩ := List.mem_map.mp (List.mem_filter.mp isWord).1
  intro found
  rw [String.toList_ofList] at found
  exact (Text.mem_of_mem_segments isPiece found).2 rfl

theorem words_underscores_append (n : Nat) (s : String) :
    words (Text.repeated n "_" ++ s) = words s := by
  induction n with
  | zero => simp [Text.repeated]
  | succ n ih =>
      have shape : Text.repeated (n + 1) "_" ++ s = "" ++ "_" ++ (Text.repeated n "_" ++ s) := by
        simp [Text.repeated, String.append_assoc]
      rw [shape, words_append, words_empty, ih, List.nil_append]

theorem words_append_underscores_append (s t : String) (n : Nat) :
    words (s ++ Text.repeated (n + 1) "_" ++ t) = words s ++ words t := by
  have shape : s ++ Text.repeated (n + 1) "_" ++ t = s ++ "_" ++ (Text.repeated n "_" ++ t) := by
    simp [Text.repeated, String.append_assoc]
  rw [shape, words_append, words_underscores_append]

theorem words_append_underscores (s : String) (n : Nat) :
    words (s ++ Text.repeated n "_") = words s := by
  cases n with
  | zero => simp [Text.repeated]
  | succ n =>
      have between := words_append_underscores_append s "" n
      rwa [String.append_empty, words_empty, List.append_nil] at between

/-! ### Joining words -/

/-- Characters of which the first is written in full uppercase. -/
def capitalizeChars : List Char → List Char
  | [] => []
  | c :: rest => Text.uppercase c ++ rest

/-- A word with the full uppercase form of its first character. -/
def capitalize (word : String) : String := String.ofList (capitalizeChars word.toList)

/-- Words in camel case: the first as it is, and each later one with a capital. -/
def joinWords : List String → String
  | [] => ""
  | first :: others => first ++ Text.concat (others.map capitalize)

theorem not_mem_capitalizeChars {cs : List Char} (free : '_' ∉ cs) : '_' ∉ capitalizeChars cs := by
  cases cs with
  | nil => exact free
  | cons c rest =>
      obtain ⟨other, freeRest⟩ := not_or.mp (mt List.mem_cons.mpr free)
      have plain : '_' ∉ Text.uppercase c := by
        rw [Text.underscore_mem_uppercase_iff]
        exact Ne.symm other
      exact List.not_mem_append plain freeRest

theorem toList_concat_capitalize (pieces : List String) :
    (Text.concat (pieces.map capitalize)).toList =
      (pieces.map String.toList).flatMap capitalizeChars := by
  rw [Text.toList_concat, List.flatMap_map, List.flatMap_map]
  simp [capitalize]

theorem not_mem_joinWords {pieces : List String} (free : ∀ word ∈ pieces, '_' ∉ word.toList) :
    '_' ∉ (joinWords pieces).toList := by
  cases pieces with
  | nil => simp [joinWords]
  | cons first others =>
      obtain ⟨freeFirst, freeOthers⟩ := List.forall_mem_cons.mp free
      rw [joinWords, String.toList_append, toList_concat_capitalize]
      refine List.not_mem_append freeFirst fun found => ?_
      obtain ⟨piece, isPiece, inPiece⟩ := List.mem_flatMap.mp found
      obtain ⟨word, isWord, rfl⟩ := List.mem_map.mp isPiece
      exact not_mem_capitalizeChars (freeOthers word isWord) inPiece

/-! ### The scan -/

/-- A scan with a result goes on with the piece it is in, with a capital if one is due, and then
with a capital for each later piece. -/
theorem camelScan_started {out cs first : List Char} {others : List (List Char)}
    (started : out ≠ []) (split : Text.segments '_' cs = first :: others) (capital : Bool) :
    camelScan capital out cs =
      out.reverse ++ (if capital then capitalizeChars first else first) ++
        others.flatMap capitalizeChars := by
  induction cs generalizing out capital first others with
  | nil =>
      obtain ⟨rfl, rfl⟩ := List.cons.inj split
      simp [camelScan, capitalizeChars]
  | cons c rest ih =>
      obtain ⟨piece, pieces, splitRest⟩ := Text.exists_segments_eq_cons '_' rest
      unfold camelScan
      by_cases isSep : c = '_'
      · subst isSep
        rw [Text.segments_cons_self, splitRest] at split
        obtain ⟨rfl, rfl⟩ := List.cons.inj split
        have due : (!out.isEmpty) = true := by simp [started]
        rw [if_pos rfl, due, ih started splitRest true]
        simp [capitalizeChars]
      · rw [Text.segments_cons_of_ne isSep splitRest] at split
        obtain ⟨rfl, rfl⟩ := List.cons.inj split
        rw [if_neg isSep]
        cases capital with
        | true =>
            have goesOn := List.append_ne_nil_of_right_ne_nil (Text.uppercase c).reverse started
            rw [if_pos rfl, ih goesOn splitRest false]
            simp [capitalizeChars]
        | false =>
            rw [if_neg Bool.false_ne_true, ih (List.cons_ne_nil c out) splitRest false]
            simp

/-- Empty pieces have no capital. -/
theorem flatMap_capitalizeChars_filled (pieces : List (List Char)) :
    (((pieces.map String.ofList).filter (· ≠ "")).map String.toList).flatMap capitalizeChars =
      pieces.flatMap capitalizeChars := by
  induction pieces with
  | nil => rfl
  | cons piece pieces ih =>
      cases piece with
      | nil => simpa [capitalizeChars] using ih
      | cons c rest => simpa using ih

/-- The scan joins the words, the first of which begins at the first character that is no
underscore. -/
theorem camelScan_eq_joinWords (cs : List Char) :
    String.ofList (camelScan false [] cs) = joinWords (words (String.ofList cs)) := by
  induction cs with
  | nil => rfl
  | cons c rest ih =>
      by_cases isSep : c = '_'
      · subst isSep
        have shape : String.ofList ('_' :: rest) = "" ++ "_" ++ String.ofList rest := by
          rw [← String.toList_inj]
          simp
        rw [shape, words_append, words_empty, List.nil_append, ← ih]
        rfl
      · obtain ⟨piece, pieces, splitRest⟩ := Text.exists_segments_eq_cons '_' rest
        have begun : camelScan false [] (c :: rest) = camelScan false [c] rest := by
          simp [camelScan, isSep]
        have parts : words (String.ofList (c :: rest)) =
            String.ofList (c :: piece) :: (pieces.map String.ofList).filter (· ≠ "") := by
          rw [words, Text.splitAt, String.toList_ofList, Text.segments_cons_of_ne isSep splitRest,
            List.map_cons, List.filter_cons_of_pos (by simp)]
        rw [← String.toList_inj, parts, joinWords, begun,
          camelScan_started (List.cons_ne_nil c []) splitRest false, String.toList_append,
          toList_concat_capitalize, flatMap_capitalizeChars_filled]
        simp

theorem camelCase_eq_joinWords (s : String) : camelCase s = joinWords (words s) := by
  rw [camelCase, camelScan_eq_joinWords, String.ofList_toList]

/-- Names of the same words have the same camel case. -/
theorem camelCase_congr {s t : String} (same : words s = words t) : camelCase s = camelCase t := by
  rw [camelCase_eq_joinWords, camelCase_eq_joinWords, same]

/-! ### The normal form -/

theorem not_mem_camelCase (s : String) : '_' ∉ (camelCase s).toList := by
  rw [camelCase_eq_joinWords]
  exact not_mem_joinWords fun word isWord => not_mem_of_mem_words isWord

theorem camelCase_of_not_mem {s : String} (free : '_' ∉ s.toList) : camelCase s = s := by
  rw [camelCase_eq_joinWords, words_of_not_mem free]
  split
  · rename_i isEmpty
    rw [isEmpty, joinWords]
  · simp [joinWords, Text.concat]

/-- Names without underscores are the camel cases. -/
theorem camelCase_eq_self_iff (s : String) : camelCase s = s ↔ '_' ∉ s.toList := by
  constructor
  · intro same
    have free := not_mem_camelCase s
    rwa [same] at free
  · exact camelCase_of_not_mem

/-- Camel case is a normal form of underscored names. It is the first word as it is and each later
word with the full uppercase form of its first character, which is never empty and has no
underscore. So it has no underscore itself, underscores at the ends and more than one between words
do not matter, and the names that it leaves alone are those without underscores, among them its own
results. -/
theorem camelCase_is_normal_form (s : String) :
    (∀ c, Text.uppercase c ≠ [] ∧ ('_' ∈ Text.uppercase c ↔ c = '_')) ∧
    camelCase s = joinWords (words s) ∧
    '_' ∉ (camelCase s).toList ∧
    (∀ n, camelCase (Text.repeated n "_" ++ s) = camelCase s ∧
      camelCase (s ++ Text.repeated n "_") = camelCase s ∧
      ∀ t, camelCase (s ++ Text.repeated (n + 1) "_" ++ t) = camelCase (s ++ "_" ++ t)) ∧
    (camelCase s = s ↔ '_' ∉ s.toList) ∧
    camelCase (camelCase s) = camelCase s := by
  refine ⟨fun c => ⟨Text.uppercase_ne_nil c, Text.underscore_mem_uppercase_iff c⟩,
    camelCase_eq_joinWords s, not_mem_camelCase s, fun n => ⟨?_, ?_, fun t => ?_⟩,
    camelCase_eq_self_iff s, camelCase_of_not_mem (not_mem_camelCase s)⟩
  · exact camelCase_congr (words_underscores_append n s)
  · exact camelCase_congr (words_append_underscores s n)
  · exact camelCase_congr ((words_append_underscores_append s t n).trans (words_append s t).symm)

/-- An uppercase form may be longer than the character. -/
example : camelCase "__straße_ßa__" = "straßeSSa" := by decide +kernel

end AdapterGen.Naming
