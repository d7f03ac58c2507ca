import AdapterGen.Proofs.Sink.Bookkeeping

/-!
# What a failed call undoes

A call that persists several files makes its changes one by one, up to the first file that the sink
does not take, and then takes them back from the last to the first. If each discarding undoes the
persisting that it takes back, the state is as it was.

The memory sink does not undo a file whose name it holds. A file that occurs twice in a call is
such a file, but what is held of it in the end goes as a whole.

## Implementation notes

A sink that records its changes beside its state sees what a call does to any sink. A file that is
refused leaves no record, as it leaves the state alone, and is seen from the failure of the call.
-/

namespace AdapterGen

open Code

variable {σ : Type}

namespace Sink

/-! ### Calls that fail -/

/-- A call persists all of its files, or some of them up to one that is refused. -/
theorem persisted_or_refused (sink : Sink σ) (state : σ) (files : List SourceFile) :
    (∃ next, files.foldlM sink.persist state = .ok next) ∨
      ∃ done file rest last cause, files = done ++ file :: rest ∧
        done.foldlM sink.persist state = .ok last ∧ sink.persist last file = .error cause := by
  induction files generalizing state with
  | nil => exact .inl ⟨state, rfl⟩
  | cons file rest ih =>
      cases persisted : sink.persist state file with
      | error cause => exact .inr ⟨[], file, rest, state, cause, rfl, rfl, persisted⟩
      | ok next =>
          rcases ih next with ⟨last, run⟩ | ⟨done, other, later, last, cause, rfl, run, refused⟩
          · left
            refine ⟨last, ?_⟩
            rw [List.foldlM_cons, persisted]
            exact run
          · right
            refine ⟨file :: done, other, later, last, cause, rfl, ?_, refused⟩
            rw [List.foldlM_cons, persisted]
            exact run

/-- A call that comes to a file that is refused discards those before it, the last first. -/
theorem persistAll_eq_of_refused {sink : Sink σ} {state last : σ} {done rest : List SourceFile}
    {file : SourceFile} {cause : GenerateError} (run : done.foldlM sink.persist state = .ok last)
    (refused : sink.persist last file = .error cause) :
    sink.persistAll state (done ++ file :: rest) =
      (sink.discardAll last done.reverse, some cause) := by
  rw [persistAll, persistAfter_append run, persistAfter, refused, List.append_nil]

/-! ### Recorded changes -/

/-- A sink that records its changes, in order. -/
def recorded (sink : Sink σ) : Sink (σ × List SinkChange) where
  persist := fun (state, changes) file => do
    let next ← sink.persist state file
    return (next, changes ++ [.persisted file])
  discard := fun (state, changes) package name =>
    (sink.discard state package name, changes ++ [.discarded package name])

theorem recorded_persist_ok {sink : Sink σ} {state next : σ} {file : SourceFile}
    (persisted : sink.persist state file = .ok next) (changes : List SinkChange) :
    sink.recorded.persist (state, changes) file = .ok (next, changes ++ [.persisted file]) :=
  bind_eq_ok_iff.mpr ⟨next, persisted, rfl⟩

theorem recorded_persist_error {sink : Sink σ} {state : σ} {file : SourceFile}
    {cause : GenerateError} (refused : sink.persist state file = .error cause)
    (changes : List SinkChange) :
    sink.recorded.persist (state, changes) file = .error cause :=
  bind_eq_error_iff.mpr (.inl refused)

theorem recorded_foldlM {sink : Sink σ} {state last : σ} {files : List SourceFile}
    (run : files.foldlM sink.persist state = .ok last) (changes : List SinkChange) :
    files.foldlM sink.recorded.persist (state, changes) =
      .ok (last, changes ++ files.map .persisted) := by
  induction files generalizing state changes with
  | nil =>
      obtain rfl := Except.ok.inj run
      rw [List.map_nil, List.append_nil]
      rfl
  | cons file rest ih =>
      rw [List.foldlM_cons] at run
      obtain ⟨next, persisted, run⟩ := bind_eq_ok_iff.mp run
      rw [List.foldlM_cons, recorded_persist_ok persisted]
      exact (ih run _).trans (by rw [List.append_assoc, List.singleton_append, List.map_cons])

theorem recorded_discardAll (sink : Sink σ) (state : σ) (changes : List SinkChange)
    (files : List SourceFile) : sink.recorded.discardAll (state, changes) files =
      (sink.discardAll state files,
        changes ++ files.map fun file => .discarded file.package file.decl.name) := by
  induction files generalizing state changes with
  | nil => simp only [discardAll, List.foldl_nil, List.map_nil, List.append_nil]
  | cons file rest ih =>
      rw [discardAll_cons, discardAll_cons, List.map_cons, ← List.singleton_append,
        ← List.append_assoc]
      exact ih _ _

/-! ### Undoing -/

/-- Whether each file that is persisted in turn is undone when it is discarded right away. -/
def Undoes (sink : Sink σ) : σ → List SourceFile → Prop
  | _, [] => True
  | state, file :: rest => ∀ next, sink.persist state file = .ok next →
      sink.discard next file.package file.decl.name = state ∧ sink.Undoes next rest

/-- Files that are undone one by one are undone from the last to the first. -/
theorem Undoes.discardAll_reverse {sink : Sink σ} {state last : σ} {done rest : List SourceFile}
    (undoes : sink.Undoes state (done ++ rest))
    (run : done.foldlM sink.persist state = .ok last) :
    sink.discardAll last done.reverse = state := by
  induction done generalizing state with
  | nil =>
      obtain rfl := Except.ok.inj run
      rfl
  | cons file others ih =>
      rw [List.foldlM_cons] at run
      obtain ⟨next, persisted, run⟩ := bind_eq_ok_iff.mp run
      obtain ⟨undoesFirst, undoesOthers⟩ := undoes next persisted
      have others : sink.discardAll last others.reverse = next := ih undoesOthers run
      rw [List.reverse_cons, discardAll, List.foldl_append]
      exact (congrArg (sink.discard · file.package file.decl.name) others).trans undoesFirst

end Sink

/-! ### The memory sink -/

namespace MemoryStore

theorem lacks_cons_iff (store : MemoryStore) (file : SourceFile) (others : List SourceFile) :
    store.Lacks (file :: others) ↔ store.Lacks [file] ∧ store.Lacks others := by
  simp [Lacks, forall_and]

theorem filesBeside_eq_iff {store : MemoryStore} {others : List SourceFile} :
    (⟨store.filesBeside others⟩ : MemoryStore) = store ↔ store.Lacks others := by
  constructor
  · intro same
    have kept : store.filesBeside others = store.files := congrArg MemoryStore.files same
    intro held isHeld
    exact of_decide_eq_true (List.filter_eq_self.mp kept held isHeld)
  · intro lacks
    exact congrArg MemoryStore.mk lacks.filesBeside_eq

/-- The memory sink undoes a file that it persists if it held none of the name. -/
theorem discard_persisted_iff {refused : List String} {store next : MemoryStore}
    {file : SourceFile} (persisted : (sink refused).persist store file = .ok next) :
    (sink refused).discard next file.package file.decl.name = store ↔ store.Lacks [file] := by
  have left : next.filesBeside [file] = store.filesBeside [file] := by
    rw [filesBeside, filesBeside, persist_eq_ok persisted]
    simp [SourceFile.SharesName]
  have discarded : (sink refused).discard next file.package file.decl.name =
      ⟨next.filesBeside [file]⟩ := discardAll_eq refused next [file]
  rw [discarded, left, filesBeside_eq_iff]

/-- The memory sink undoes the files of a call when it holds none of their names, and no two of
them have one name. -/
theorem undoes_iff (refused : List String) (store : MemoryStore) (files : List SourceFile) :
    (sink refused).Undoes store files ↔
      store.Lacks ((sink refused).accepted store files) ∧
        ((sink refused).accepted store files).Pairwise
          fun file other => ¬file.SharesName other := by
  induction files generalizing store with
  | nil => simp [Sink.Undoes, Sink.accepted, Lacks]
  | cons file rest ih =>
      cases persisted : (sink refused).persist store file with
      | error cause =>
          rw [Sink.accepted_cons_error persisted]
          simp [Sink.Undoes, persisted, Lacks]
      | ok next =>
          have step : (sink refused).Undoes store (file :: rest) ↔
              (sink refused).discard next file.package file.decl.name = store ∧
                (sink refused).Undoes next rest := by
            simp only [Sink.Undoes, persisted, Except.ok.injEq, forall_eq']
          have held : next.Lacks ((sink refused).accepted next rest) ↔
              store.Lacks ((sink refused).accepted next rest) ∧
                ∀ other ∈ (sink refused).accepted next rest, ¬file.SharesName other := by
            simp only [Lacks, persist_eq_ok persisted, List.forall_mem_append,
              List.forall_mem_singleton]
          have lacksAll := lacks_cons_iff store file ((sink refused).accepted next rest)
          rw [Sink.accepted_cons_ok persisted, step, discard_persisted_iff persisted, ih, held,
            lacksAll, List.pairwise_cons]
          simp only [and_assoc]

end MemoryStore

/-! ### Calls of any sink -/

/-- A call persists its files in order up to the first that is refused, discards those that it
persisted, the last first, and fails as that file does. If each discarding undoes the persisting of
its file, the state is as it was. The memory sink undoes the files that a call persists unless two
of them, or one and another held before, have one name; a failed call restores it unless it held
one of those names before. -/
theorem failed_call_unwinds :
    (∀ {σ : Type} (sink : Sink σ) (state : σ) (files : List SourceFile),
      match sink.recorded.persistAll (state, []) files with
      | ((next, changes), none) =>
          sink.persistAll state files = (next, none) ∧
            files.foldlM sink.persist state = .ok next ∧
            changes = files.map .persisted
      | ((next, changes), some cause) =>
          sink.persistAll state files = (next, some cause) ∧
            (∃ done file rest last, files = done ++ file :: rest ∧
              done.foldlM sink.persist state = .ok last ∧
              sink.persist last file = .error cause ∧
              changes = done.map .persisted ++
                done.reverse.map fun file => .discarded file.package file.decl.name) ∧
            (sink.Undoes state files → next = state)) ∧
      ∀ (refused : List String) (store : MemoryStore) (files : List SourceFile),
        let sink := MemoryStore.sink refused
        let accepted := sink.accepted store files
        (sink.Undoes store files ↔
          store.Lacks accepted ∧ accepted.Pairwise fun file other => ¬file.SharesName other) ∧
        (¬accepted.Nodup → ¬sink.Undoes store files) ∧
        ∀ next cause, sink.persistAll store files = (next, some cause) →
          (next = store ↔ store.Lacks accepted) ∧ (store.Lacks files → next = store) := by
  constructor
  · intro σ sink state files
    rcases sink.persisted_or_refused state files with
      ⟨next, run⟩ | ⟨done, file, rest, last, cause, rfl, run, refused⟩
    · rw [Sink.persistAll_eq_of_foldlM (Sink.recorded_foldlM run [])]
      exact ⟨Sink.persistAll_eq_of_foldlM run, run, rfl⟩
    · rw [Sink.persistAll_eq_of_refused (Sink.recorded_foldlM run [])
        (Sink.recorded_persist_error refused _), Sink.recorded_discardAll]
      exact ⟨Sink.persistAll_eq_of_refused run refused,
        ⟨done, file, rest, last, rfl, run, refused, rfl⟩,
        fun undoes => undoes.discardAll_reverse run⟩
  · intro refused store files sink accepted
    have undoes := MemoryStore.undoes_iff refused store files
    refine ⟨undoes, fun repeats isUndone => ?_, fun next cause failed => ?_⟩
    · obtain ⟨-, apart⟩ := undoes.mp isUndone
      refine repeats (apart.imp ?_)
      rintro file _ differ rfl
      exact differ ⟨rfl, rfl⟩
    · obtain rfl := MemoryStore.persistAll_failed failed
      have restored : (⟨store.filesBeside accepted⟩ : MemoryStore) = store ↔
          store.Lacks accepted := MemoryStore.filesBeside_eq_iff
      refine ⟨restored, fun lacks => restored.mpr fun held isHeld file isAccepted => ?_⟩
      exact lacks held isHeld file (Sink.accepted_subset sink store files isAccepted)

/-- A call fails at its last file. The memory sink undoes two files of different names, but not one
that occurs twice, and is restored in both cases. -/
theorem failed_call_unwinds_repeated :
    let file (name : String) : SourceFile := ⟨"a", { name := name }⟩
    let different := [file "A", file "C", file "B"]
    let repeated := [file "A", file "A", file "B"]
    let sink := MemoryStore.sink ["B"]
    let store : MemoryStore := ⟨[⟨"b", { name := "A" }⟩]⟩
    sink.Undoes store different ∧ (sink.persistAll store different).1 = store ∧
      store.Lacks repeated ∧ ¬sink.Undoes store repeated ∧
      (sink.persistAll store repeated).1 = store ∧
      (sink.recorded.persistAll (store, []) repeated).1.2 =
        [.persisted (file "A"), .persisted (file "A"), .discarded "a" "A", .discarded "a" "A"] := by
  intro file different repeated sink store
  obtain ⟨unwinds, inMemory⟩ := failed_call_unwinds
  have lacks : store.Lacks repeated := by
    unfold MemoryStore.Lacks
    decide
  have undoes : sink.Undoes store different := by
    refine (inMemory ["B"] store different).1.mpr ⟨?_, by decide⟩
    unfold MemoryStore.Lacks
    decide
  obtain ⟨-, notUndone, restores⟩ := inMemory ["B"] store repeated
  have failed : (sink.persistAll store repeated).2 = some (.persistence "a.B" .refused) := by
    decide
  obtain ⟨-, -, restored⟩ := unwinds sink store different
  exact ⟨undoes, restored undoes, lacks, notUndone (by decide),
    (restores _ _ (Prod.ext rfl failed)).2 lacks, rfl⟩

end AdapterGen
