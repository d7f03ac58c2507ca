import AdapterGen.Proofs.FilePath
import AdapterGen.Proofs.FileTree
import AdapterGen.Proofs.Outcome
import AdapterGen.Sink.Directory
import AdapterGen.Sink.Memory

/-!
# Persisting all files or none

A call that fails discards the files it persisted. What the sink had before under other names, or
at other places, is as it was. So is everything, unless the sink already had a file of a name, or
at a place, of one of those.

## Implementation notes

Discarding goes by name and by path, so a file of the same name from before the call goes too. The
theorems on a failed call speak of the files that the call persisted first, `Sink.accepted`.
-/

namespace AdapterGen

open Code

variable {σ : Type}

namespace Sink

/-- The files of a call that are persisted before the first that is not. -/
def accepted (sink : Sink σ) : σ → List SourceFile → List SourceFile
  | _, [] => []
  | state, file :: rest =>
      match sink.persist state file with
      | .ok next => file :: sink.accepted next rest
      | .error _ => []

theorem accepted_cons_ok {sink : Sink σ} {state next : σ} {file : SourceFile}
    (persisted : sink.persist state file = .ok next) (rest : List SourceFile) :
    sink.accepted state (file :: rest) = file :: sink.accepted next rest := by
  simp only [accepted, persisted]

theorem accepted_cons_error {sink : Sink σ} {state : σ} {file : SourceFile}
    {cause : GenerateError} (refused : sink.persist state file = .error cause)
    (rest : List SourceFile) : sink.accepted state (file :: rest) = [] := by
  simp only [accepted, refused]

theorem discardAll_cons (sink : Sink σ) (state : σ) (file : SourceFile) (rest : List SourceFile) :
    sink.discardAll state (file :: rest) =
      sink.discardAll (sink.discard state file.package file.decl.name) rest := rfl

/-- A call goes on behind files that are persisted in turn. -/
theorem persistAfter_append {sink : Sink σ} {state last : σ} {done : List SourceFile}
    (run : done.foldlM sink.persist state = .ok last) (earlier rest : List SourceFile) :
    sink.persistAfter earlier state (done ++ rest) =
      sink.persistAfter (done.reverse ++ earlier) last rest := by
  induction done generalizing state earlier with
  | nil =>
      obtain rfl := Except.ok.inj run
      rfl
  | cons file others ih =>
      rw [List.foldlM_cons] at run
      obtain ⟨next, persisted, run⟩ := bind_eq_ok_iff.mp run
      rw [List.cons_append, persistAfter, persisted]
      dsimp only
      rw [ih run, List.reverse_cons, List.append_assoc, List.singleton_append]

/-- A call persists its accepted files, and discards them again, the last first, if one more is
refused. -/
theorem persistAfter_accepted {sink : Sink σ} {state next : σ} {files earlier : List SourceFile}
    {failure : Option GenerateError}
    (result : sink.persistAfter earlier state files = (next, failure)) :
    ∃ last, (sink.accepted state files).foldlM sink.persist state = .ok last ∧
      (failure = none → sink.accepted state files = files ∧ next = last) ∧
      ∀ cause, failure = some cause →
        next = sink.discardAll last ((sink.accepted state files).reverse ++ earlier) := by
  induction files generalizing state earlier with
  | nil =>
      obtain ⟨rfl, rfl⟩ := Prod.mk.inj result
      exact ⟨state, rfl, fun _ => ⟨rfl, rfl⟩, fun _ failed => nomatch failed⟩
  | cons file rest ih =>
      unfold persistAfter at result
      cases persisted : sink.persist state file with
      | error cause =>
          rw [persisted] at result
          obtain ⟨rfl, rfl⟩ := Prod.mk.inj result
          rw [accepted_cons_error persisted]
          exact ⟨state, rfl, fun passed => (nomatch passed), fun _ _ => rfl⟩
      | ok after =>
          rw [persisted] at result
          obtain ⟨last, run, passes, fails⟩ := ih result
          rw [accepted_cons_ok persisted]
          refine ⟨last, ?_, ?_, ?_⟩
          · rw [List.foldlM_cons, persisted]
            exact run
          · intro passed
            obtain ⟨all, same⟩ := passes passed
            exact ⟨congrArg (file :: ·) all, same⟩
          · intro cause failed
            rw [fails cause failed, List.reverse_cons, List.append_assoc, List.singleton_append]

/-- A call that succeeds persists all of its files. -/
theorem persistAll_passed {sink : Sink σ} {state next : σ} {files : List SourceFile}
    (passed : sink.persistAll state files = (next, none)) :
    files.foldlM sink.persist state = .ok next := by
  obtain ⟨last, run, passes, -⟩ := persistAfter_accepted passed
  obtain ⟨all, rfl⟩ := passes rfl
  rwa [all] at run

end Sink

/-! ### The memory sink -/

/-- Whether two files hold classes of one name in one package. -/
def Code.SourceFile.SharesName (file other : SourceFile) : Prop :=
  file.package = other.package ∧ file.decl.name = other.decl.name

instance (file other : SourceFile) : Decidable (file.SharesName other) :=
  inferInstanceAs (Decidable (_ ∧ _))

namespace MemoryStore

/-- The files of a store that are not named like any of some others. -/
def filesBeside (store : MemoryStore) (others : List SourceFile) : List SourceFile :=
  store.files.filter fun held => ∀ file ∈ others, ¬held.SharesName file

/-- Whether no file of a store is named like any of some others. -/
def Lacks (store : MemoryStore) (others : List SourceFile) : Prop :=
  ∀ held ∈ store.files, ∀ file ∈ others, ¬held.SharesName file

theorem Lacks.filesBeside_eq {store : MemoryStore} {others : List SourceFile}
    (lacks : store.Lacks others) : store.filesBeside others = store.files := by
  apply List.filter_eq_self.mpr
  intro held isHeld
  exact decide_eq_true (lacks held isHeld)

theorem persist_eq_ok {refused : List String} {store next : MemoryStore} {file : SourceFile}
    (persisted : (sink refused).persist store file = .ok next) :
    next.files = store.files ++ [file] := by
  unfold sink at persisted
  dsimp only at persisted
  split at persisted
  · nomatch persisted
  · obtain rfl := Except.ok.inj persisted
    rfl

theorem foldlM_persist {refused : List String} {store last : MemoryStore}
    {files : List SourceFile}
    (persisted : files.foldlM (sink refused).persist store = .ok last) :
    last.files = store.files ++ files := by
  induction files generalizing store with
  | nil =>
      obtain rfl := Except.ok.inj persisted
      simp
  | cons file rest ih =>
      rw [List.foldlM_cons] at persisted
      obtain ⟨next, first, others⟩ := bind_eq_ok_iff.mp persisted
      rw [ih others, persist_eq_ok first, List.append_assoc, List.singleton_append]

theorem discardAll_eq (refused : List String) (store : MemoryStore) (files : List SourceFile) :
    (sink refused).discardAll store files = ⟨store.filesBeside files⟩ := by
  induction files generalizing store with
  | nil =>
      have all : store.filesBeside [] = store.files := by simp [filesBeside]
      rw [all]
      rfl
  | cons file rest ih =>
      rw [Sink.discardAll_cons, ih]
      apply congrArg MemoryStore.mk
      simp only [sink, filesBeside, List.filter_filter]
      apply List.filter_congr
      intro held _
      simp only [SourceFile.SharesName, List.forall_mem_cons, not_and_or]
      simp [Bool.and_comm]

/-- A failed call leaves the files that are not named like those it persisted first. -/
theorem persistAll_failed {refused : List String} {store next : MemoryStore}
    {files : List SourceFile} {cause : GenerateError}
    (failed : (sink refused).persistAll store files = (next, some cause)) :
    next = ⟨store.filesBeside ((sink refused).accepted store files)⟩ := by
  obtain ⟨last, run, -, fails⟩ := Sink.persistAfter_accepted failed
  have held := foldlM_persist run
  have outcome := fails cause rfl
  generalize (sink refused).accepted store files = accepted at held outcome ⊢
  have noneLeft : accepted.filter (fun held => ∀ file ∈ accepted, ¬held.SharesName file) = [] := by
    apply List.filter_eq_nil_iff.mpr
    intro file isAccepted beside
    exact of_decide_eq_true beside file isAccepted ⟨rfl, rfl⟩
  rw [outcome, List.append_nil, discardAll_eq]
  apply congrArg MemoryStore.mk
  unfold filesBeside
  simp only [List.mem_reverse, held, List.filter_append, noneLeft, List.append_nil]

end MemoryStore

/-! ### The directory sink -/

namespace DirectoryStore

/-- The place of a file below a root. -/
def placeOf (root : String) (file : SourceFile) : List String :=
  FilePath.resolve (pathOf root file)

/-- What stands at places once files are written over what stood there before: at the place of a
file its source, unless a later file goes to the same place. -/
structure Overlays (root indent : String) (files : List SourceFile)
    (before after : List String → Option String) : Prop where
  last : ∀ earlier file later, files = earlier ++ file :: later →
    (∀ other ∈ later, placeOf root other ≠ placeOf root file) →
      after (placeOf root file) = some (file.render indent)
  beside : ∀ place, (∀ file ∈ files, placeOf root file ≠ place) → after place = before place

theorem Overlays.nil (root indent : String) (before : List String → Option String) :
    Overlays root indent [] before before where
  last := by
    intro earlier file later shape
    simp at shape
  beside _ _ := rfl

theorem Overlays.cons {root indent : String} {file : SourceFile} {rest : List SourceFile}
    {before after : List String → Option String}
    (overlays : Overlays root indent rest
      (Function.update before (placeOf root file) (some (file.render indent))) after) :
    Overlays root indent (file :: rest) before after where
  last := by
    intro earlier other later shape apart
    cases earlier with
    | nil =>
        obtain ⟨rfl, rfl⟩ := List.cons.inj shape
        rw [overlays.beside _ apart, Function.update_self]
    | cons first others =>
        obtain ⟨rfl, shapeRest⟩ := List.cons.inj shape
        exact overlays.last others other later shapeRest apart
  beside := by
    intro place apart
    obtain ⟨apartFirst, apartRest⟩ := List.forall_mem_cons.mp apart
    rw [overlays.beside place apartRest, Function.update_of_ne (Ne.symm apartFirst)]

theorem persist_eq_ok {root indent : String} {store next : DirectoryStore} {file : SourceFile}
    (persisted : (sink root indent).persist store file = .ok next) :
    next.tree.content? =
        Function.update store.tree.content? (placeOf root file) (some (file.render indent)) ∧
      next.written = store.written ++ [pathOf root file] := by
  unfold sink at persisted
  dsimp only at persisted
  split at persisted
  · rename_i tree wrote
    obtain rfl := Except.ok.inj persisted
    obtain ⟨ready, made, wrote⟩ := bind_eq_ok_iff.mp wrote
    refine ⟨?_, rfl⟩
    rw [← FileTree.content?_makeDirectories made]
    exact FileTree.content?_write wrote
  · nomatch persisted

theorem foldlM_persist {root indent : String} {store last : DirectoryStore}
    {files : List SourceFile}
    (persisted : files.foldlM (sink root indent).persist store = .ok last) :
    Overlays root indent files store.tree.content? last.tree.content? ∧
      last.written = store.written ++ files.map (pathOf root) := by
  induction files generalizing store with
  | nil =>
      obtain rfl := Except.ok.inj persisted
      exact ⟨Overlays.nil root indent _, by simp⟩
  | cons file rest ih =>
      rw [List.foldlM_cons] at persisted
      obtain ⟨next, first, others⟩ := bind_eq_ok_iff.mp persisted
      obtain ⟨contents, written⟩ := persist_eq_ok first
      obtain ⟨overlays, writtenAll⟩ := ih others
      rw [contents] at overlays
      exact ⟨overlays.cons, by simp [writtenAll, written]⟩

/-- A file is discarded from the path to which it is written. -/
theorem discardPath_eq (root : String) (file : SourceFile) :
    discardPath root file.package file.decl.name = pathOf root file :=
  FilePath.push_assoc _ _ _

/-- The written paths that lead to none of some files. -/
def writtenBeside (root : String) (files : List SourceFile) (store : DirectoryStore) :
    List String :=
  store.written.filter fun path => ∀ file ∈ files, FilePath.same path (pathOf root file) = false

theorem discard_spec (root indent : String) (store : DirectoryStore) (file : SourceFile) :
    ((sink root indent).discard store file.package file.decl.name).tree.content? =
        Function.update store.tree.content? (placeOf root file) none ∧
      ((sink root indent).discard store file.package file.decl.name).written =
        store.written.filter (!FilePath.same · (pathOf root file)) := by
  constructor
  · simp only [sink, discardPath_eq, FileTree.content?_remove]
    rfl
  · simp only [sink, discardPath_eq]

theorem discardAll_spec (root indent : String) (store : DirectoryStore)
    (files : List SourceFile) :
    (∀ place, ((sink root indent).discardAll store files).tree.content? place =
        if ∃ file ∈ files, placeOf root file = place then none else store.tree.content? place) ∧
      ((sink root indent).discardAll store files).written = store.writtenBeside root files := by
  induction files generalizing store with
  | nil =>
      constructor
      · simp [Sink.discardAll]
      · exact (List.filter_eq_self.mpr (by simp)).symm
  | cons file rest ih =>
      obtain ⟨contents, written⟩ := discard_spec root indent store file
      rw [Sink.discardAll_cons]
      generalize (sink root indent).discard store file.package file.decl.name = next
        at contents written
      obtain ⟨contentsAll, writtenAll⟩ := ih next
      constructor
      · intro place
        rw [contentsAll place, contents]
        by_cases here : placeOf root file = place
        · simp [here]
        · rw [Function.update_of_ne (Ne.symm here)]
          simp [here]
      · unfold writtenBeside at writtenAll ⊢
        rw [writtenAll, written, List.filter_filter]
        apply List.filter_congr
        intro path _
        simp [Bool.and_comm]

/-- Whether a store knows nothing of some files: nothing stands at their places, and none of the
written paths is theirs. -/
structure Lacks (root : String) (store : DirectoryStore) (files : List SourceFile) : Prop where
  contents : ∀ file ∈ files, store.tree.content? (placeOf root file) = none
  written : ∀ path ∈ store.written, ∀ file ∈ files,
    FilePath.same path (pathOf root file) = false

theorem Lacks.writtenBeside_eq {root : String} {store : DirectoryStore} {files : List SourceFile}
    (lacks : Lacks root store files) : writtenBeside root files store = store.written := by
  apply List.filter_eq_self.mpr
  intro path isWritten
  exact decide_eq_true (lacks.written path isWritten)

/-- A failed call leaves nothing at the places of the files it persisted first, and all other
places and paths as they were. -/
theorem persistAll_failed {root indent : String} {store next : DirectoryStore}
    {files : List SourceFile} {cause : GenerateError}
    (failed : (sink root indent).persistAll store files = (next, some cause)) :
    let accepted := (sink root indent).accepted store files
    (∀ place, next.tree.content? place =
        if ∃ file ∈ accepted, placeOf root file = place then none
        else store.tree.content? place) ∧
      next.written = writtenBeside root accepted store := by
  intro accepted
  obtain ⟨last, run, -, fails⟩ := Sink.persistAfter_accepted failed
  obtain ⟨overlays, written⟩ := foldlM_persist run
  obtain ⟨contents, left⟩ := discardAll_spec root indent last (accepted.reverse ++ [])
  rw [← fails cause rfl] at contents left
  simp only [List.append_nil, List.mem_reverse] at contents
  constructor
  · intro place
    rw [contents place]
    split
    · rfl
    · rename_i free
      apply overlays.beside
      intro file isAccepted here
      exact free ⟨file, isAccepted, here⟩
  · have noneLeft : (accepted.map (pathOf root)).filter
        (fun path => ∀ file ∈ accepted, FilePath.same path (pathOf root file) = false) = [] := by
      apply List.filter_eq_nil_iff.mpr
      intro path isPath beside
      obtain ⟨file, isAccepted, rfl⟩ := List.mem_map.mp isPath
      simpa [FilePath.same] using of_decide_eq_true beside file isAccepted
    rw [left]
    unfold writtenBeside
    simp only [List.append_nil, List.mem_reverse, written, List.filter_append]
    exact (congrArg _ noneLeft).trans (List.append_nil _)

end DirectoryStore

/-! ### All files or none -/

/-- A call that succeeds persists all of its files. One that fails leaves exactly what has none of
the names, or lies at none of the places, of the files that it persisted first, and this is
everything when the sink knew nothing of those files. -/
theorem persistAll_all_or_none (refused : List String) (held : MemoryStore)
    (root indent : String) (store : DirectoryStore) (files : List SourceFile) :
    (let accepted := (MemoryStore.sink refused).accepted held files
     match (MemoryStore.sink refused).persistAll held files with
     | (next, none) => next.files = held.files ++ files
     | (next, some _) =>
         next = ⟨held.filesBeside accepted⟩ ∧ (held.Lacks accepted → next = held)) ∧
      (let accepted := (DirectoryStore.sink root indent).accepted store files
       match (DirectoryStore.sink root indent).persistAll store files with
       | (next, none) =>
           DirectoryStore.Overlays root indent files store.tree.content? next.tree.content? ∧
             next.written = store.written ++ files.map (DirectoryStore.pathOf root)
       | (next, some _) =>
           (∀ place, next.tree.content? place =
               if ∃ file ∈ accepted, DirectoryStore.placeOf root file = place then none
               else store.tree.content? place) ∧
             next.written = store.writtenBeside root accepted ∧
             (store.Lacks root accepted →
               next.tree.content? = store.tree.content? ∧ next.written = store.written)) := by
  constructor
  · intro accepted
    split
    · rename_i next persisted
      exact MemoryStore.foldlM_persist (Sink.persistAll_passed persisted)
    · rename_i next cause failed
      have left := MemoryStore.persistAll_failed failed
      refine ⟨left, fun lacks => ?_⟩
      exact left.trans (congrArg MemoryStore.mk lacks.filesBeside_eq)
  · intro accepted
    split
    · rename_i next persisted
      exact DirectoryStore.foldlM_persist (Sink.persistAll_passed persisted)
    · rename_i next cause failed
      obtain ⟨contents, written⟩ := DirectoryStore.persistAll_failed failed
      refine ⟨contents, written, fun lacks => ⟨?_, written.trans lacks.writtenBeside_eq⟩⟩
      funext place
      rw [contents place]
      split
      · rename_i found
        obtain ⟨file, isAccepted, rfl⟩ := found
        exact (lacks.contents file isAccepted).symm
      · rfl

/-- A class held from an earlier call stays when a call persists another one and then fails. -/
theorem persistAll_restores_others :
    let first : SourceFile := ⟨"a", { name := "A" }⟩
    let second : SourceFile := ⟨"a", { name := "B" }⟩
    let held : MemoryStore := ⟨[⟨"b", { name := "A" }⟩]⟩
    held.Lacks ((MemoryStore.sink ["B"]).accepted held [first, second]) ∧
      ((MemoryStore.sink ["B"]).persistAll held [first, second]).1 = held := by
  intro first second held
  have lacks : held.Lacks ((MemoryStore.sink ["B"]).accepted held [first, second]) := by
    unfold MemoryStore.Lacks
    decide
  obtain ⟨inMemory, -⟩ :=
    persistAll_all_or_none ["B"] held "out" "" {} [first, second]
  have failed : ((MemoryStore.sink ["B"]).persistAll held [first, second]).2 =
      some (.persistence "a.B" .refused) := by decide
  generalize (MemoryStore.sink ["B"]).persistAll held [first, second] = result at *
  obtain ⟨next, failure⟩ := result
  obtain rfl : failure = _ := failed
  exact ⟨lacks, inMemory.2 lacks⟩

/-- What a sink had under the name, or at the place, of a file is lost when a call first persists
the file and then fails. -/
theorem persistAll_loses_overwritten :
    (¬∀ (refused : List String) (store next : MemoryStore) (files : List SourceFile)
        (cause : GenerateError),
        (MemoryStore.sink refused).persistAll store files = (next, some cause) → next = store) ∧
      ¬∀ (root indent : String) (store next : DirectoryStore) (files : List SourceFile)
        (cause : GenerateError),
        (DirectoryStore.sink root indent).persistAll store files = (next, some cause) →
          next.tree.content? = store.tree.content? ∧ next.written = store.written := by
  let first : SourceFile := ⟨"a", { name := "A" }⟩
  let second : SourceFile := ⟨"a", { name := "B" }⟩
  constructor
  · intro restores
    have failed : (MemoryStore.sink ["B"]).persistAll ⟨[first]⟩ [first, second] =
        (⟨[]⟩, some (.persistence "a.B" .refused)) := by decide
    nomatch restores _ _ _ _ _ failed
  · intro restores
    let tree : FileTree :=
      .ofEntries [("out/a/A.java", .file "before"), ("out/a/B.java", .directory)]
    let store : DirectoryStore := ⟨tree, []⟩
    have failed : ((DirectoryStore.sink "out" "").persistAll store [first, second]).2 =
        some (.persistence "a.B" .isDirectory) := by decide +kernel
    have gone : ((DirectoryStore.sink "out" "").persistAll store [first, second]).1.tree.content?
        ["out", "a", "A.java"] = none := by decide +kernel
    have stood : store.tree.content? ["out", "a", "A.java"] = some "before" := by decide +kernel
    generalize isResult : (DirectoryStore.sink "out" "").persistAll store [first, second] = result
      at failed gone
    obtain ⟨restored, -⟩ := restores _ _ _ result.1 _ _ (isResult.trans (Prod.ext rfl failed))
    rw [restored, stood] at gone
    nomatch gone

end AdapterGen
