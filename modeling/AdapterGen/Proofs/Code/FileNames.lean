import AdapterGen.Code.SourceFile
import AdapterGen.Proofs.FilePath
import AdapterGen.Proofs.Naming

/-!
# Names and paths of files

A qualified name falls apart into the package and the simple name it was made from, and a dotted
name is put together again from its parts. So the qualified name of a file and its path each
determine the file's package and class.

## Implementation notes

A path loses where a package has empty segments, and a slash in a name starts a further step. Both
are excluded for paths alone; a dot in a class name is excluded for qualified names alone.
-/

namespace AdapterGen.Code.SourceFile

open Naming

/-- Qualifying a simple name is undone by taking the name apart, and a name taken apart is put
together again unless its package is the empty text in front of a dot. Hence no two classes with
dotless names share a qualified name, and no two in packages without empty segments share a path,
however it is spelled, if none of the names has a slash. -/
theorem names_and_paths_determine_classes :
    (∀ package simple : String, '.' ∉ simple.toList →
      simpleName (qualify package simple) = simple ∧
        packageOf? (qualify package simple) = if package = "" then none else some package) ∧
    (∀ name : String,
      qualify ((packageOf? name).getD "") (simpleName name) = name ↔
        packageOf? name ≠ some "") ∧
    (∀ file other : SourceFile,
      (∀ named ∈ [file, other], '.' ∉ named.decl.name.toList) →
        (file.qualifiedName = other.qualifiedName ↔
          file.package = other.package ∧ file.decl.name = other.decl.name)) ∧
    ∀ file other : SourceFile,
      (∀ named ∈ [file, other], FilePath.IsPackage named.package ∧
        '/' ∉ named.package.toList ∧ '/' ∉ named.decl.name.toList) →
        (FilePath.same file.relativePath other.relativePath = true ↔
          file.package = other.package ∧ file.decl.name = other.decl.name) ∧
        (file.relativePath = other.relativePath ↔
          file.package = other.package ∧ file.decl.name = other.decl.name) := by
  refine ⟨?_, qualify_parts_iff, ?_, ?_⟩
  · intro package simple noDot
    exact ⟨simpleName_qualify noDot package, packageOf?_qualify noDot package⟩
  · intro file other noDots
    obtain ⟨noDot, others⟩ := List.forall_mem_cons.mp noDots
    exact qualify_inj noDot (others other (List.mem_singleton_self other))
  · intro file other plain
    obtain ⟨⟨valid, packageFree, nameFree⟩, others⟩ := List.forall_mem_cons.mp plain
    obtain ⟨validOther, otherFree, otherNameFree⟩ := others other (List.mem_singleton_self other)
    have sameIff : FilePath.same file.relativePath other.relativePath = true ↔
        file.package = other.package ∧ file.decl.name = other.decl.name :=
      FilePath.same_ofClass_iff valid validOther packageFree otherFree nameFree otherNameFree
    refine ⟨sameIff, fun equal => sameIff.mp ?_, ?_⟩
    · rw [equal, FilePath.same, beq_self_eq_true]
    · rintro ⟨packages, names⟩
      rw [relativePath, relativePath, packages, names]

/-- A class and a class of a package that bears its name. -/
theorem names_and_paths_determine_classes_of_nested :
    let outer : SourceFile := ⟨"a", { name := "b" }⟩
    let inner : SourceFile := ⟨"a.b", { name := "C" }⟩
    (∀ named ∈ [outer, inner], '.' ∉ named.decl.name.toList) ∧
      (∀ named ∈ [outer, inner], FilePath.IsPackage named.package ∧
        '/' ∉ named.package.toList ∧ '/' ∉ named.decl.name.toList) ∧
      simpleName "a.b.C" = "C" ∧ packageOf? "a.b.C" = some "a.b" ∧
      qualify ((packageOf? "a.b.C").getD "") (simpleName "a.b.C") = "a.b.C" ∧
      outer.qualifiedName ≠ inner.qualifiedName ∧
      FilePath.same outer.relativePath inner.relativePath = false ∧
      outer.relativePath ≠ inner.relativePath := by
  intro outer inner
  have noDots : ∀ named ∈ [outer, inner], '.' ∉ named.decl.name.toList := by decide
  have plain : ∀ named ∈ [outer, inner], FilePath.IsPackage named.package ∧
      '/' ∉ named.package.toList ∧ '/' ∉ named.decl.name.toList := by decide
  have apart : ¬(outer.package = inner.package ∧ outer.decl.name = inner.decl.name) := by decide
  obtain ⟨takenApart, putTogether, byName, byPath⟩ := names_and_paths_determine_classes
  obtain ⟨simple, package⟩ := takenApart "a.b" "C" (by decide)
  obtain ⟨bySpelling, byText⟩ := byPath outer inner plain
  refine ⟨noDots, plain, simple, package, ?_, ?_, ?_, ?_⟩
  · have named : packageOf? "a.b.C" = some "a.b" := package
    exact (putTogether "a.b.C").mpr (by simp [named])
  · exact mt (byName outer inner noDots).mp apart
  · exact Bool.eq_false_iff.mpr (mt bySpelling.mp apart)
  · exact mt byText.mp apart

end AdapterGen.Code.SourceFile
