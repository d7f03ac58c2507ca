import AdapterGen.Proofs.Sink.Rollback

/-!
# One address for writing and discarding

A file is written to the root joined with the file's own path, and discarded from the root joined
with the directory of its package and then with its name. Whatever the texts are, both lead from the
root along the segments of the package to the file. So discarding a file that was written removes
this file and no other.

## Implementation notes

The two paths are the same text, not only paths to the same place. Pushing the empty path of the
default package adds the slash behind the root that pushing the name of the file would have added.
-/

namespace AdapterGen.DirectoryStore

open Code

/-- A file is written to and discarded from the path that the segments of its package and its name
make below the root, one pushed after another. Discarding a file that was written removes the
content at its place and its path from the paths written, and all else is as it was before the file
was written. -/
theorem discard_addresses_written_file (root indent : String) (store : DirectoryStore)
    (file : SourceFile) :
    discardPath root file.package file.decl.name = pathOf root file ∧
    pathOf root file =
      (FilePath.classSteps file.package file.decl.name).foldl FilePath.push root ∧
    ∀ next, (sink root indent).persist store file = .ok next →
      let after := (sink root indent).discard next file.package file.decl.name
      next.tree.content? (placeOf root file) = some (file.render indent) ∧
      pathOf root file ∈ next.written ∧
      after.tree.content? = Function.update store.tree.content? (placeOf root file) none ∧
      after.written = store.written.filter (!FilePath.same · (pathOf root file)) := by
  refine ⟨discardPath_eq root file, FilePath.push_ofClass root file.package file.decl.name, ?_⟩
  intro next persisted
  obtain ⟨contents, written⟩ := persist_eq_ok persisted
  obtain ⟨removed, forgotten⟩ := discard_spec root indent next file
  have ownPath : [pathOf root file].filter (!FilePath.same · (pathOf root file)) = [] := by
    simp [FilePath.same]
  refine ⟨?_, ?_, ?_, ?_⟩
  · rw [contents, Function.update_self]
  · simp [written]
  · rw [removed, contents, Function.update_idem]
  · rw [forgotten, written, List.filter_append, ownPath, List.append_nil]

/-- A package with an empty segment and one between slashes leads out of the root, and its class is
discarded where it was written. -/
theorem discard_addresses_written_file_outside_root :
    let file : SourceFile := ⟨"a../b/", { name := "C" }⟩
    let store : DirectoryStore := ⟨.ofEntries [("out/a/D.java", .file "kept")], ["out/a/D.java"]⟩
    pathOf "out" file = "/b/C.java" ∧
      ∃ next, (sink "out" "").persist store file = .ok next ∧
        next.tree.content? (placeOf "out" file) = some (file.render "") ∧
        next.written = ["out/a/D.java", "/b/C.java"] ∧
        ((sink "out" "").discard next "a../b/" "C").tree.content? =
          Function.update store.tree.content? (placeOf "out" file) none ∧
        ((sink "out" "").discard next "a../b/" "C").written = ["out/a/D.java"] := by
  intro file store
  have address : pathOf "out" file = "/b/C.java" := by decide +kernel
  obtain ⟨-, -, undoes⟩ := discard_addresses_written_file "out" "" store file
  cases persisted : (sink "out" "").persist store file with
  | error cause =>
      have accepted : ((sink "out" "").persist store file).isOk = true := by decide +kernel
      rw [persisted] at accepted
      nomatch accepted
  | ok next =>
      obtain ⟨content, -, removed, forgotten⟩ := undoes next persisted
      have kept : store.written.filter (!FilePath.same · (pathOf "out" file)) = ["out/a/D.java"] := by
        decide +kernel
      have written : next.written = ["out/a/D.java", "/b/C.java"] := by
        rw [(persist_eq_ok persisted).2, address]
        rfl
      exact ⟨address, next, rfl, content, written, removed, forgotten.trans kept⟩

end AdapterGen.DirectoryStore
