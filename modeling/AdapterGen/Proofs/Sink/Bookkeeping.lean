import AdapterGen.Proofs.Sink.Simulation

/-!
# The books of the directory sink

Steps on a directory sink are taken apart into the single changes that they make. The paths that
the store lists are those of the files persisted and not discarded since, each with the content
that was persisted last, and every other file was there at the start.

## Implementation notes

A step that fails counts with the changes it made: a call discards the files that it persisted
before the failure. Trees and books are compared by `lastAt`, the last change at a place; that
places and paths correspond needs names without slashes.
-/

namespace AdapterGen

open Code FilePath

variable {σ : Type}

/-! ### Changes -/

/-- A change that a step makes. -/
inductive SinkChange where
  | persisted (file : SourceFile)
  | discarded (package name : String)

/-- The changes that a step makes, in order. A call that fails discards what it persisted, the last
first. -/
def SinkStep.changes (sink : Sink σ) (state : σ) : SinkStep → List SinkChange
  | persist file =>
      match sink.persist state file with
      | .ok _ => [.persisted file]
      | .error _ => []
  | discard package name => [.discarded package name]
  | persistAll files =>
      let accepted := sink.accepted state files
      accepted.map .persisted ++
        match (sink.persistAll state files).2 with
        | none => []
        | some _ => accepted.reverse.map fun file => .discarded file.package file.decl.name

/-- The changes that steps make one after another. -/
def Sink.history (sink : Sink σ) : σ → List SinkStep → List SinkChange
  | _, [] => []
  | state, step :: rest => step.changes sink state ++ sink.history (step.apply sink state).1 rest

/-- The state after several steps. -/
def Sink.stateAfter (sink : Sink σ) (state : σ) (steps : List SinkStep) : σ :=
  steps.foldl (fun state step => (step.apply sink state).1) state

/-- Changes made one after another, from a state to another. -/
inductive Replays (sink : Sink σ) : σ → List SinkChange → σ → Prop
  | done {state : σ} : Replays sink state [] state
  | persisted {state next last : σ} {file : SourceFile} {rest : List SinkChange} :
      sink.persist state file = .ok next → Replays sink next rest last →
        Replays sink state (.persisted file :: rest) last
  | discarded {state last : σ} {package name : String} {rest : List SinkChange} :
      Replays sink (sink.discard state package name) rest last →
        Replays sink state (.discarded package name :: rest) last

namespace Replays

variable {sink : Sink σ} {state middle last : σ}

theorem append {changes more : List SinkChange} (first : Replays sink state changes middle)
    (second : Replays sink middle more last) : Replays sink state (changes ++ more) last := by
  induction first with
  | done => exact second
  | persisted accepted _ ih => exact .persisted accepted (ih second)
  | discarded _ ih => exact .discarded (ih second)

theorem of_foldlM {files : List SourceFile}
    (run : files.foldlM sink.persist state = .ok last) :
    Replays sink state (files.map .persisted) last := by
  induction files generalizing state with
  | nil =>
      obtain rfl := Except.ok.inj run
      exact .done
  | cons file rest ih =>
      rw [List.foldlM_cons] at run
      obtain ⟨next, accepted, others⟩ := bind_eq_ok_iff.mp run
      exact .persisted accepted (ih others)

theorem of_discardAll (state : σ) (files : List SourceFile) :
    Replays sink state (files.map fun file => .discarded file.package file.decl.name)
      (sink.discardAll state files) := by
  induction files generalizing state with
  | nil => exact .done
  | cons file rest ih => exact .discarded (ih _)

/-- A step makes its changes, whether it fails or not. -/
theorem of_step (sink : Sink σ) (state : σ) (step : SinkStep) :
    Replays sink state (step.changes sink state) (step.apply sink state).1 := by
  cases step with
  | persist file =>
      cases persisted : sink.persist state file with
      | ok next =>
          simp only [SinkStep.changes, SinkStep.apply, persisted]
          exact .persisted persisted .done
      | error cause =>
          simp only [SinkStep.changes, SinkStep.apply, persisted]
          exact .done
  | discard package name => exact .discarded .done
  | persistAll files =>
      obtain ⟨last, run, passes, fails⟩ := Sink.persistAfter_accepted (Prod.eta _).symm
      have accepted := of_foldlM run
      cases failure : (sink.persistAll state files).2 with
      | none =>
          simp only [SinkStep.changes, SinkStep.apply, failure, List.append_nil]
          rwa [← (passes failure).2] at accepted
      | some cause =>
          simp only [SinkStep.changes, SinkStep.apply, failure]
          rw [Sink.persistAll, fails cause failure, List.append_nil]
          exact accepted.append (of_discardAll last _)

theorem of_steps (sink : Sink σ) (state : σ) (steps : List SinkStep) :
    Replays sink state (sink.history state steps) (sink.stateAfter state steps) := by
  induction steps generalizing state with
  | nil => exact .done
  | cons step rest ih => exact (of_step sink state step).append (ih _)

end Replays

/-! ### Paths and places -/

/-- A package and a class name that have no slash. -/
def IsSlashFree (package name : String) : Prop := '/' ∉ package.toList ∧ '/' ∉ name.toList

instance (package name : String) : Decidable (IsSlashFree package name) :=
  inferInstanceAs (Decidable (_ ∧ _))

namespace SinkChange

/-- The path of the file that a change is about. -/
def path (root : String) : SinkChange → String
  | persisted file => DirectoryStore.pathOf root file
  | discarded package name => DirectoryStore.discardPath root package name

/-- The steps to that file below the root. -/
def steps : SinkChange → List String
  | persisted file => classSteps file.package file.decl.name
  | discarded package name => classSteps package name

/-- What a change leaves at its place. -/
def content? (indent : String) : SinkChange → Option String
  | persisted file => some (file.render indent)
  | discarded _ _ => none

/-- A change that is about a class and a package without slashes. -/
def IsSlashFree : SinkChange → Prop
  | persisted file => AdapterGen.IsSlashFree file.package file.decl.name
  | discarded package name => AdapterGen.IsSlashFree package name

variable {change other : SinkChange} (root : String)

theorem path_eq (change : SinkChange) :
    change.path root = change.steps.foldl push root := by
  cases change with
  | persisted file => exact push_ofClass root file.package file.decl.name
  | discarded package name =>
      rw [path, DirectoryStore.discardPath, push_assoc]
      exact push_ofClass root package name

theorem isStep_of_mem_steps (free : change.IsSlashFree) : ∀ step ∈ change.steps, IsStep step := by
  cases change <;> exact isStep_of_mem_classSteps free.1 free.2

theorem components_path (free : change.IsSlashFree) :
    components (change.path root) = components root ++ change.steps := by
  rw [path_eq, components_pushes (isStep_of_mem_steps free)]

theorem resolve_path (free : change.IsSlashFree) :
    resolve (change.path root) = resolve root ++ change.steps := by
  rw [resolve, components_path root free, List.foldl_append,
    foldl_follow (isStep_of_mem_steps free)]
  rfl

/-- Changes at one place are about one path. -/
theorem resolve_path_eq_iff (free : change.IsSlashFree) (otherFree : other.IsSlashFree) :
    resolve (change.path root) = resolve (other.path root) ↔
      change.path root = other.path root := by
  refine ⟨fun same => ?_, congrArg resolve⟩
  rw [resolve_path root free, resolve_path root otherFree, List.append_cancel_left_eq] at same
  rw [path_eq, path_eq, same]

theorem same_path_iff (free : change.IsSlashFree) (otherFree : other.IsSlashFree) :
    FilePath.same (change.path root) (other.path root) = true ↔
      change.path root = other.path root := by
  rw [FilePath.same, beq_iff_eq]
  refine ⟨fun same => ?_, congrArg components⟩
  rw [components_path root free, components_path root otherFree, List.append_cancel_left_eq]
    at same
  rw [path_eq, path_eq, same]

end SinkChange

/-! ### The last change at a place -/

/-- The last of several changes that was made at a place. -/
def lastAt (root : String) (place : List String) (history : List SinkChange) :
    Option SinkChange :=
  history.reverse.find? fun change => resolve (change.path root) = place

section

variable {root : String} {place : List String} {history : List SinkChange}

theorem lastAt_append (root : String) (place : List String) (history more : List SinkChange) :
    lastAt root place (history ++ more) =
      (lastAt root place more).or (lastAt root place history) := by
  rw [lastAt, List.reverse_append, List.find?_append]
  rfl

theorem lastAt_append_of_eq {change : SinkChange} (here : resolve (change.path root) = place) :
    lastAt root place (history ++ [change]) = some change := by
  rw [lastAt_append]
  simp [lastAt, here]

theorem lastAt_append_of_ne {change : SinkChange} (apart : resolve (change.path root) ≠ place) :
    lastAt root place (history ++ [change]) = lastAt root place history := by
  rw [lastAt_append]
  simp [lastAt, apart]

theorem lastAt_eq_some {change : SinkChange} (found : lastAt root place history = some change) :
    change ∈ history ∧ resolve (change.path root) = place :=
  ⟨List.mem_reverse.mp (List.mem_of_find?_eq_some found), by simpa using List.find?_some found⟩

/-- A change is the last one at its place when none of those after it was made there. -/
theorem lastAt_eq_some_iff {change : SinkChange} :
    lastAt root place history = some change ↔ resolve (change.path root) = place ∧
      ∃ front back, history = front ++ change :: back ∧
        ∀ later ∈ back, resolve (later.path root) ≠ place := by
  unfold lastAt
  rw [List.find?_eq_some_iff_append, decide_eq_true_iff]
  refine and_congr_right fun _ => ?_
  constructor
  · rintro ⟨back, front, shape, apart⟩
    refine ⟨front.reverse, back.reverse, ?_, ?_⟩
    · simpa using congrArg List.reverse shape
    · simpa using apart
  · rintro ⟨front, back, rfl, apart⟩
    exact ⟨back.reverse, front.reverse, by simp, by simpa using apart⟩

/-- The last change at the place of a change is that change or a later one. -/
theorem lastAt_of_mem (root : String) (front : List SinkChange) (change : SinkChange)
    (back : List SinkChange) :
    ∃ last, lastAt root (resolve (change.path root)) (front ++ change :: back) = some last ∧
      (last = change ∨ last ∈ back) := by
  rw [List.append_cons, lastAt_append, lastAt_append_of_eq rfl]
  cases later : lastAt root (resolve (change.path root)) back with
  | none => exact ⟨change, rfl, .inl rfl⟩
  | some last => exact ⟨last, rfl, .inr (lastAt_eq_some later).1⟩

/-- The contents that changes lead to from those of a tree. -/
def contentAfter (root indent : String) (start : FileTree) (history : List SinkChange)
    (place : List String) : Option String :=
  match lastAt root place history with
  | some change => change.content? indent
  | none => start.content? place

theorem contentAfter_append (indent : String) (start : FileTree) (change : SinkChange) :
    contentAfter root indent start (history ++ [change]) =
      Function.update (contentAfter root indent start history) (resolve (change.path root))
        (change.content? indent) := by
  funext place
  by_cases here : resolve (change.path root) = place
  · rw [contentAfter, lastAt_append_of_eq here, ← here, Function.update_self]
  · rw [contentAfter, lastAt_append_of_ne here, Function.update_of_ne (Ne.symm here), contentAfter]

end

/-! ### The invariant -/

namespace DirectoryStore

variable {root indent : String} {start : FileTree} {history : List SinkChange}
  {store next : DirectoryStore}

/-- What one persisted file does to directories: those on its way are there, and all others stay. -/
theorem directory_of_persist {file : SourceFile}
    (persisted : (sink root indent).persist store file = .ok next) {place : List String}
    (there : place ∈ passed (pathOf root file) ∨ store.tree.get? place = some .directory) :
    next.tree.get? place = some .directory := by
  unfold sink at persisted
  dsimp only at persisted
  split at persisted
  · rename_i tree wrote
    obtain rfl := Except.ok.inj persisted
    obtain ⟨ready, made, wrote⟩ := bind_eq_ok_iff.mp wrote
    apply FileTree.directory_of_write _ wrote
    rcases there with onWay | isThere
    · exact FileTree.get?_of_makeDirectories made onWay
    · exact FileTree.directory_of_makeDirectories isThere made
  · nomatch persisted

/-- A store that agrees with its history, begun in some tree: at each place stands what the last
change there left, and the paths listed are those at which it left a file. -/
structure Tracks (root indent : String) (start : FileTree) (history : List SinkChange)
    (store : DirectoryStore) : Prop where
  free : ∀ change ∈ history, change.IsSlashFree
  contents : store.tree.content? = contentAfter root indent start history
  written : ∀ path, path ∈ store.written ↔
    ∃ file, lastAt root (resolve path) history = some (.persisted file) ∧
      (SinkChange.persisted file).path root = path
  ways : ∀ path ∈ store.written, ∀ place ∈ passed path, store.tree.get? place = some .directory

namespace Tracks

theorem init (root indent : String) (start : FileTree) :
    Tracks root indent start [] ⟨start, []⟩ where
  free _ found := nomatch found
  contents := rfl
  written path := by simp [lastAt]
  ways _ found := nomatch found

theorem persisted (tracks : Tracks root indent start history store) {file : SourceFile}
    (free : (SinkChange.persisted file).IsSlashFree)
    (persisted : (sink root indent).persist store file = .ok next) :
    Tracks root indent start (history ++ [.persisted file]) next := by
  have isPath : pathOf root file = (SinkChange.persisted file).path root := rfl
  obtain ⟨contents, written⟩ := persist_eq_ok persisted
  rw [isPath] at written
  refine ⟨?_, ?_, ?_, ?_⟩
  · exact List.forall_mem_append.mpr ⟨tracks.free, List.forall_mem_singleton.mpr free⟩
  · rw [contents, tracks.contents, contentAfter_append]
    rfl
  · intro path
    rw [written, List.mem_append, List.mem_singleton, tracks.written path]
    by_cases here : resolve ((SinkChange.persisted file).path root) = resolve path
    · rw [lastAt_append_of_eq here]
      constructor
      · rintro (⟨other, isLast, rfl⟩ | rfl)
        · -- A file listed before lies at the same place, so it has the same path.
          have isFree := tracks.free _ (lastAt_eq_some isLast).1
          exact ⟨file, rfl, (SinkChange.resolve_path_eq_iff root free isFree).mp here⟩
        · exact ⟨file, rfl, rfl⟩
      · rintro ⟨other, isLast, rfl⟩
        obtain rfl := SinkChange.persisted.inj (Option.some.inj isLast)
        exact .inr rfl
    · rw [lastAt_append_of_ne here, or_iff_left]
      rintro rfl
      exact here rfl
  · intro path listed place onWay
    apply directory_of_persist persisted
    rw [written, List.mem_append, List.mem_singleton] at listed
    rcases listed with before | rfl
    · exact .inr (tracks.ways path before place onWay)
    · exact .inl onWay

theorem discarded (tracks : Tracks root indent start history store) {package name : String}
    (free : (SinkChange.discarded package name).IsSlashFree) :
    Tracks root indent start (history ++ [.discarded package name])
      ((sink root indent).discard store package name) := by
  have outcome : (sink root indent).discard store package name =
      ⟨store.tree.remove (resolve ((SinkChange.discarded package name).path root)),
        store.written.filter (!FilePath.same · ((SinkChange.discarded package name).path root))⟩ :=
    rfl
  rw [outcome]
  refine ⟨?_, ?_, ?_, ?_⟩
  · exact List.forall_mem_append.mpr ⟨tracks.free, List.forall_mem_singleton.mpr free⟩
  · rw [contentAfter_append, ← tracks.contents, FileTree.content?_remove]
    rfl
  · intro path
    rw [List.mem_filter, tracks.written path, Bool.not_eq_true', ← Bool.not_eq_true]
    by_cases here : resolve ((SinkChange.discarded package name).path root) = resolve path
    · rw [lastAt_append_of_eq here]
      constructor
      · rintro ⟨⟨file, isLast, rfl⟩, stays⟩
        have isFree := tracks.free _ (lastAt_eq_some isLast).1
        have samePath := (SinkChange.resolve_path_eq_iff root isFree free).mp here.symm
        exact absurd ((SinkChange.same_path_iff root isFree free).mpr samePath) stays
      · rintro ⟨_, isLast, -⟩
        nomatch isLast
    · rw [lastAt_append_of_ne here]
      refine and_iff_left_of_imp ?_
      rintro ⟨file, isLast, rfl⟩ same
      have isFree := tracks.free _ (lastAt_eq_some isLast).1
      have samePath := (SinkChange.same_path_iff root isFree free).mp same
      exact here (congrArg resolve samePath).symm
  · intro path listed place onWay
    dsimp only at listed ⊢
    have there := tracks.ways path (List.mem_of_mem_filter listed) place onWay
    exact FileTree.directory_of_remove there

/-- Changes that are slash-free keep the books in order. -/
theorem replays (tracks : Tracks root indent start history store) {changes : List SinkChange}
    {last : DirectoryStore} (run : Replays (sink root indent) store changes last)
    (free : ∀ change ∈ changes, change.IsSlashFree) :
    Tracks root indent start (history ++ changes) last := by
  induction run generalizing history with
  | done => rwa [List.append_nil]
  | persisted accepted _ ih =>
      obtain ⟨first, others⟩ := List.forall_mem_cons.mp free
      rw [List.append_cons]
      exact ih (tracks.persisted first accepted) others
  | discarded _ ih =>
      obtain ⟨first, others⟩ := List.forall_mem_cons.mp free
      rw [List.append_cons]
      exact ih (tracks.discarded first) others

end Tracks

/-- Books that are in order. -/
structure KeepsBooks (root indent : String) (start : FileTree) (history : List SinkChange)
    (store : DirectoryStore) : Prop where
  /-- A listed path leads to a file with the content that was persisted there last. -/
  listed : ∀ path ∈ store.written, ∃ front file back, history = front ++ .persisted file :: back ∧
    pathOf root file = path ∧ (∀ change ∈ back, change.path root ≠ path) ∧
    store.tree.read? path = some (file.render indent)
  /-- A file to which no listed path leads was there at the start. -/
  unlisted : ∀ place content, store.tree.content? place = some content →
    (∀ path ∈ store.written, resolve path ≠ place) → start.content? place = some content
  /-- A file that was persisted and not discarded since is listed. -/
  created : ∀ front file back, history = front ++ .persisted file :: back →
    (∀ package name, .discarded package name ∈ back →
      discardPath root package name ≠ pathOf root file) → pathOf root file ∈ store.written
  /-- A path that was discarded and not written since is not listed, and no file is there. -/
  discarded : ∀ front package name back, history = front ++ .discarded package name :: back →
    (∀ file, .persisted file ∈ back → pathOf root file ≠ discardPath root package name) →
      discardPath root package name ∉ store.written ∧
        store.tree.content? (resolve (discardPath root package name)) = none

namespace Tracks

theorem read?_eq (tracks : Tracks root indent start history store) {file : SourceFile}
    (isLast : lastAt root (resolve (pathOf root file)) history = some (.persisted file)) :
    store.tree.read? (pathOf root file) = some (file.render indent) := by
  have isListed := (tracks.written (pathOf root file)).mpr ⟨file, isLast, rfl⟩
  have free := tracks.free _ (lastAt_eq_some isLast).1
  have namesFile : namesDirectory (pathOf root file) = false := by
    have isStep := isStep_classFile free.2
    unfold pathOf SourceFile.relativePath ofClass
    rw [← push_assoc]
    exact namesDirectory_push isStep _
  have isOpen : (passed (pathOf root file)).all store.tree.isDirectory = true := by
    rw [List.all_eq_true]
    intro place onWay
    rw [FileTree.isDirectory, tracks.ways _ isListed place onWay]
    exact beq_self_eq_true _
  unfold FileTree.read?
  rw [namesFile, isOpen, Bool.not_true, Bool.or_self, if_neg Bool.false_ne_true, tracks.contents,
    contentAfter, isLast]
  rfl

theorem keepsBooks (tracks : Tracks root indent start history store) :
    KeepsBooks root indent start history store where
  listed := by
    intro path isListed
    obtain ⟨file, isLast, rfl⟩ := (tracks.written path).mp isListed
    obtain ⟨-, front, back, shape, apart⟩ := lastAt_eq_some_iff.mp isLast
    refine ⟨front, file, back, shape, rfl, fun change later samePath => ?_, tracks.read?_eq isLast⟩
    exact apart change later (congrArg resolve samePath)
  unlisted := by
    intro place content isFile apart
    rw [tracks.contents, contentAfter] at isFile
    split at isFile
    · rename_i change isLast
      cases change with
      | discarded package name => nomatch isFile
      | persisted file =>
          have here := (lastAt_eq_some isLast).2
          rw [← here] at isLast
          exact absurd here (apart _ ((tracks.written _).mpr ⟨file, isLast, rfl⟩))
    · exact isFile
  created := by
    rintro front file back rfl kept
    obtain ⟨last, isLast, isSame⟩ :=
      lastAt_of_mem root front (.persisted file) back
    have found := lastAt_eq_some isLast
    have free := tracks.free (.persisted file) (by simp)
    have samePath :=
      (SinkChange.resolve_path_eq_iff root (tracks.free last found.1) free).mp found.2
    cases last with
    | discarded package name =>
        rcases isSame with differs | later
        · nomatch differs
        · exact absurd samePath (kept package name later)
    | persisted other => exact (tracks.written _).mpr ⟨other, isLast, samePath⟩
  discarded := by
    rintro front package name back rfl kept
    obtain ⟨last, isLast, isSame⟩ :=
      lastAt_of_mem root front (.discarded package name) back
    have found := lastAt_eq_some isLast
    have free := tracks.free (.discarded package name) (by simp)
    have samePath :=
      (SinkChange.resolve_path_eq_iff root (tracks.free last found.1) free).mp found.2
    have isPath : (SinkChange.discarded package name).path root = discardPath root package name :=
      rfl
    rw [isPath] at isLast
    cases last with
    | persisted other =>
        rcases isSame with differs | later
        · nomatch differs
        · exact absurd samePath (kept other later)
    | discarded =>
        constructor
        · intro isListed
          obtain ⟨file, isFile, -⟩ := (tracks.written _).mp isListed
          nomatch isFile.symm.trans isLast
        · rw [tracks.contents, contentAfter, isLast]
          rfl

end Tracks

end DirectoryStore

/-! ### Runs -/

/-- A step that names classes and packages without slashes alone. -/
def SinkStep.IsSlashFree : SinkStep → Prop
  | discard package name => AdapterGen.IsSlashFree package name
  | step => ∀ file ∈ step.files, AdapterGen.IsSlashFree file.package file.decl.name

instance : ∀ step : SinkStep, Decidable step.IsSlashFree
  | .persist file => inferInstanceAs (Decidable (∀ other ∈ [file], _))
  | .discard package name => inferInstanceAs (Decidable (IsSlashFree package name))
  | .persistAll files => inferInstanceAs (Decidable (∀ file ∈ files, _))

theorem Sink.accepted_subset (sink : Sink σ) (state : σ) (files : List SourceFile) :
    sink.accepted state files ⊆ files := by
  induction files generalizing state with
  | nil => exact List.Subset.refl _
  | cons file rest ih =>
      cases persisted : sink.persist state file with
      | ok next =>
          rw [accepted_cons_ok persisted]
          exact List.cons_subset_cons file (ih next)
      | error cause =>
          rw [accepted_cons_error persisted]
          exact List.nil_subset _

theorem SinkStep.isSlashFree_of_mem_changes {sink : Sink σ} {state : σ} {step : SinkStep}
    (free : step.IsSlashFree) : ∀ change ∈ step.changes sink state, change.IsSlashFree := by
  intro change made
  cases step with
  | persist file =>
      simp only [changes] at made
      split at made
      · obtain rfl := List.mem_singleton.mp made
        exact free file List.mem_cons_self
      · nomatch made
  | discard package name =>
      obtain rfl := List.mem_singleton.mp made
      exact free
  | persistAll files =>
      have accepted : ∀ file ∈ sink.accepted state files,
          AdapterGen.IsSlashFree file.package file.decl.name :=
        fun file isAccepted => free file (sink.accepted_subset state files isAccepted)
      simp only [changes] at made
      rcases List.mem_append.mp made with isPersisted | isDiscarded
      · obtain ⟨file, isAccepted, rfl⟩ := List.mem_map.mp isPersisted
        exact accepted file isAccepted
      · split at isDiscarded
        · nomatch isDiscarded
        · obtain ⟨file, isAccepted, rfl⟩ := List.mem_map.mp isDiscarded
          exact accepted file (List.mem_reverse.mp isAccepted)

theorem Sink.isSlashFree_of_mem_history {sink : Sink σ} {state : σ} {steps : List SinkStep}
    (free : ∀ step ∈ steps, step.IsSlashFree) :
    ∀ change ∈ sink.history state steps, change.IsSlashFree := by
  induction steps generalizing state with
  | nil => exact fun _ made => nomatch made
  | cons step rest ih =>
      obtain ⟨freeFirst, freeRest⟩ := List.forall_mem_cons.mp free
      exact List.forall_mem_append.mpr
        ⟨SinkStep.isSlashFree_of_mem_changes freeFirst, ih freeRest⟩

/-- Steps that name slash-free classes are run on a fresh directory sink over any tree, failing or
not. The books are in order after each of them. -/
theorem directory_sink_keeps_books (root indent : String) (tree : FileTree)
    (steps : List SinkStep) (free : ∀ step ∈ steps, step.IsSlashFree) :
    let sink := DirectoryStore.sink root indent
    ∀ done, done <+: steps →
      DirectoryStore.KeepsBooks root indent tree (sink.history ⟨tree, []⟩ done)
        (sink.stateAfter ⟨tree, []⟩ done) := by
  intro sink done begins
  have run := Replays.of_steps sink ⟨tree, []⟩ done
  have freeDone : ∀ step ∈ done, step.IsSlashFree := fun step found =>
    free step (begins.subset found)
  have begun := DirectoryStore.Tracks.init root indent tree
  exact (begun.replays run (Sink.isSlashFree_of_mem_history freeDone)).keepsBooks

/-- A file is persisted over one that was there, and a call persists one more before it fails, as a
directory is where its second file is to go. Then the first file is discarded by another spelling of
its package. -/
theorem directory_sink_keeps_books_of_overwritten :
    let file (package name : String) : SourceFile := ⟨package, { name := name }⟩
    let tree : FileTree := .ofEntries
      [("out/a/A.java", .file "before"), ("out/a/B.java", .directory), ("out/a/C.txt", .file "c")]
    let steps : List SinkStep :=
      [.persist (file "a" "A"), .persistAll [file "a.b" "C", file "a" "B"],
        .persist (file "a.b" "D"), .discard ".a" "A"]
    let sink := DirectoryStore.sink "out" "\t"
    (sink.outcomes ⟨tree, []⟩ steps).map (·.1.written) =
        [["out/a/A.java"], ["out/a/A.java"], ["out/a/A.java", "out/a/b/D.java"],
          ["out/a/b/D.java"]] ∧
      DirectoryStore.KeepsBooks "out" "\t" tree (sink.history ⟨tree, []⟩ steps)
        (sink.stateAfter ⟨tree, []⟩ steps) := by
  intro file tree steps sink
  have free : ∀ step ∈ steps, step.IsSlashFree := by decide +kernel
  refine ⟨by decide +kernel, ?_⟩
  exact directory_sink_keeps_books "out" "\t" tree steps free steps List.prefix_rfl

end AdapterGen
