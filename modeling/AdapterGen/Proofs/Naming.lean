import AdapterGen.Naming
import Mathlib.Data.List.TakeWhile

/-!
# Laws of names

A qualified name gives back its package and its simple name when the simple name has no dot, and a
name is put together again from its parts. What is appended to simple names does not confuse two of
them.
-/

namespace AdapterGen.Naming

theorem not_mem_lastSegment (cs : List Char) : '.' ∉ lastSegment cs := by
  intro found
  unfold lastSegment at found
  have noDot := List.all_eq_true.mp List.all_takeWhile '.' (List.mem_reverse.mp found)
  simp at noDot

theorem not_mem_simpleName (qualified : String) : '.' ∉ (simpleName qualified).toList := by
  unfold simpleName
  rw [String.toList_ofList]
  exact not_mem_lastSegment _

theorem forall_reverse_ne_dot_iff {cs : List Char} :
    (∀ c ∈ cs.reverse, (c != '.') = true) ↔ '.' ∉ cs := by
  simp only [List.mem_reverse, bne_iff_ne]
  exact ⟨fun apart found => apart '.' found rfl, fun noDot _ found isDot => noDot (isDot ▸ found)⟩

theorem lastSegment_append {simple : List Char} (noDot : '.' ∉ simple) (front : List Char) :
    lastSegment (front ++ '.' :: simple) = simple := by
  unfold lastSegment
  rw [List.reverse_append, List.reverse_cons, List.append_assoc,
    List.takeWhile_append_of_pos (forall_reverse_ne_dot_iff.mpr noDot)]
  simp

theorem lastSegment_of_not_mem {simple : List Char} (noDot : '.' ∉ simple) :
    lastSegment simple = simple := by
  rw [lastSegment, List.takeWhile_eq_self_iff.mpr (forall_reverse_ne_dot_iff.mpr noDot),
    List.reverse_reverse]

theorem beforeLastDot?_append {simple : List Char} (noDot : '.' ∉ simple) (front : List Char) :
    beforeLastDot? (front ++ '.' :: simple) = some front := by
  unfold beforeLastDot?
  rw [List.reverse_append, List.reverse_cons, List.append_assoc,
    List.dropWhile_append_of_pos (forall_reverse_ne_dot_iff.mpr noDot)]
  simp

theorem packageOf?_append {simple : String} (noDot : '.' ∉ simple.toList) (package : String) :
    packageOf? (package ++ "." ++ simple) = some package := by
  have chars : (package ++ "." ++ simple).toList = package.toList ++ '.' :: simple.toList := by simp
  rw [packageOf?, chars, beforeLastDot?_append noDot, Option.map_some, String.ofList_toList]

theorem packageOf?_eq_none_iff {qualified : String} :
    packageOf? qualified = none ↔ '.' ∉ qualified.toList := by
  rw [← forall_reverse_ne_dot_iff, ← List.dropWhile_eq_nil_iff, packageOf?, Option.map_eq_none_iff,
    beforeLastDot?]
  split <;> simp_all

/-- A name with a package is the package and its last segment. -/
theorem packageOf?_eq_some {qualified package : String}
    (isPackage : packageOf? qualified = some package) :
    qualified = package ++ "." ++ simpleName qualified := by
  obtain ⟨front, found, rfl⟩ := Option.map_eq_some_iff.mp isPackage
  have parts := List.takeWhile_append_dropWhile (p := (· != '.')) (l := qualified.toList.reverse)
  unfold beforeLastDot? at found
  split at found
  · nomatch found
  · rename_i dot before behind
    obtain rfl := Option.some.inj found
    have isDot : dot = '.' := by
      have stopped := List.head_dropWhile_not (p := (· != '.')) (l := qualified.toList.reverse)
        (by simp [behind])
      simpa [behind] using stopped
    rw [behind, isDot] at parts
    have chars := congrArg List.reverse parts
    apply String.toList_inj.mp
    simpa [simpleName, lastSegment, eq_comm] using chars

theorem simpleName_of_not_mem {simple : String} (noDot : '.' ∉ simple.toList) :
    simpleName simple = simple := by
  rw [simpleName, lastSegment_of_not_mem noDot, String.ofList_toList]

theorem simpleName_append {simple : String} (noDot : '.' ∉ simple.toList) (package : String) :
    simpleName (package ++ "." ++ simple) = simple := by
  have chars : (package ++ "." ++ simple).toList = package.toList ++ '.' :: simple.toList := by simp
  rw [simpleName, chars, lastSegment_append noDot, String.ofList_toList]

theorem simpleName_qualify {simple : String} (noDot : '.' ∉ simple.toList) (package : String) :
    simpleName (qualify package simple) = simple := by
  unfold qualify
  split
  · exact simpleName_of_not_mem noDot
  · exact simpleName_append noDot package

theorem packageOf?_qualify {simple : String} (noDot : '.' ∉ simple.toList) (package : String) :
    packageOf? (qualify package simple) = if package = "" then none else some package := by
  unfold qualify
  split
  · exact packageOf?_eq_none_iff.mpr noDot
  · exact packageOf?_append noDot package

/-- A name is put together again from its parts unless it begins with its last dot: the package in
front of that dot would be the default one, which is written without a dot. -/
theorem qualify_parts_iff (name : String) :
    qualify ((packageOf? name).getD "") (simpleName name) = name ↔ packageOf? name ≠ some "" := by
  cases isPackage : packageOf? name with
  | none =>
      have noDot := packageOf?_eq_none_iff.mp isPackage
      simp [qualify, simpleName_of_not_mem noDot]
  | some package =>
      have whole := packageOf?_eq_some isPackage
      by_cases isDefault : package = ""
      · subst isDefault
        have longer : simpleName name ≠ name := by
          intro same
          have lengths := congrArg String.length (same.trans whole)
          simp at lengths
        simp [qualify, longer]
      · simp [qualify, isDefault, ← whole]

/-- A qualified name determines its package and its simple name. -/
theorem qualify_inj {p q simple other : String} (noDot : '.' ∉ simple.toList)
    (noDotOther : '.' ∉ other.toList) :
    qualify p simple = qualify q other ↔ p = q ∧ simple = other := by
  constructor
  · intro same
    have names := congrArg simpleName same
    have packages := congrArg packageOf? same
    rw [simpleName_qualify noDot, simpleName_qualify noDotOther] at names
    rw [packageOf?_qualify noDot, packageOf?_qualify noDotOther] at packages
    refine ⟨?_, names⟩
    by_cases noPackage : p = "" <;> by_cases noOther : q = ""
    · rw [noPackage, noOther]
    · simp [noPackage, noOther] at packages
    · simp [noPackage, noOther] at packages
    · simpa [noPackage, noOther] using packages
  · rintro ⟨rfl, rfl⟩
    rfl

theorem qualify_append (package simple suffix : String) :
    qualify package (simple ++ suffix) = qualify package simple ++ suffix := by
  unfold qualify
  split <;> simp [String.append_assoc]

end AdapterGen.Naming
