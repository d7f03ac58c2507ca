import AdapterGen.Proofs.Naming
import AdapterGen.Proofs.Sink.Rollback
import Mathlib.Data.List.Pairwise

/-!
# The memory sink foretells the directory sink

Steps that persist and discard classes are run on both sinks at once, the directory sink below an
empty root. As long as no step persists a class that is still held, none fails, and after each one
the files below the root are those that the memory sink holds.

## Implementation notes

The name of a class's file has a dot and the steps of a package have none, so no directory that is
made ever stands where a file is to go, nor a file where a directory is needed. This is why class
names may be anything without a dot or a slash.
-/

namespace AdapterGen

open Code FilePath

variable {σ : Type}

/-! ### Steps -/

/-- A class whose file is found by its qualified name: its package has no empty segment, its name
has no dot, and neither has a slash. -/
structure IsPlainClass (package name : String) : Prop where
  segments : IsPackage package
  packageFree : '/' ∉ package.toList
  nameFree : '/' ∉ name.toList
  noDot : '.' ∉ name.toList

theorem isPlainClass_iff (package name : String) : IsPlainClass package name ↔
    IsPackage package ∧ '/' ∉ package.toList ∧ '/' ∉ name.toList ∧ '.' ∉ name.toList :=
  ⟨fun plain => ⟨plain.segments, plain.packageFree, plain.nameFree, plain.noDot⟩,
    fun ⟨segments, packageFree, nameFree, noDot⟩ => ⟨segments, packageFree, nameFree, noDot⟩⟩

instance (package name : String) : Decidable (IsPlainClass package name) :=
  decidable_of_iff' _ (isPlainClass_iff package name)

/-- A step on a sink. -/
inductive SinkStep where
  | persist (file : SourceFile)
  | discard (package name : String)
  | persistAll (files : List SourceFile)

namespace SinkStep

/-- The state after a step, and its failure if it fails. -/
def apply (sink : Sink σ) (state : σ) : SinkStep → σ × Option GenerateError
  | persist file =>
      match sink.persist state file with
      | .ok next => (next, none)
      | .error cause => (state, some cause)
  | discard package name => (sink.discard state package name, none)
  | persistAll files => sink.persistAll state files

/-- The files that a step persists. -/
def files : SinkStep → List SourceFile
  | persist file => [file]
  | discard _ _ => []
  | persistAll files => files

/-- A step that names plain classes alone. -/
def IsPlain : SinkStep → Prop
  | discard package name => IsPlainClass package name
  | step => ∀ file ∈ step.files, IsPlainClass file.package file.decl.name

instance : ∀ step : SinkStep, Decidable step.IsPlain
  | persist file => inferInstanceAs (Decidable (∀ other ∈ [file], _))
  | discard package name => inferInstanceAs (Decidable (IsPlainClass package name))
  | persistAll files => inferInstanceAs (Decidable (∀ file ∈ files, _))

/-- A step that persists no class that is still held, and none twice. -/
def IsFresh (held : MemoryStore) (step : SinkStep) : Prop :=
  held.Lacks step.files ∧ step.files.Pairwise fun file other => ¬file.SharesName other

instance (held : MemoryStore) (step : SinkStep) : Decidable (step.IsFresh held) :=
  inferInstanceAs (Decidable ((∀ _ ∈ _, ∀ _ ∈ _, ¬_) ∧ _))

end SinkStep

/-- What steps lead to one after another: the state after each, and its failure if it fails. -/
def Sink.outcomes (sink : Sink σ) : σ → List SinkStep → List (σ × Option GenerateError)
  | _, [] => []
  | state, step :: rest =>
      let outcome := step.apply sink state
      outcome :: sink.outcomes outcome.1 rest

/-- Steps none of which persists a class that the memory sink still holds then. -/
def IsFreshRun : MemoryStore → List SinkStep → Prop
  | _, [] => True
  | held, step :: rest =>
      step.IsFresh held ∧ IsFreshRun (step.apply (MemoryStore.sink []) held).1 rest

instance : ∀ (held : MemoryStore) (steps : List SinkStep), Decidable (IsFreshRun held steps)
  | _, [] => inferInstanceAs (Decidable True)
  | held, step :: rest =>
      have := instDecidableIsFreshRun (step.apply (MemoryStore.sink []) held).1 rest
      inferInstanceAs (Decidable (_ ∧ _))

/-- A call succeeds when each of its files is persisted in turn. -/
theorem Sink.persistAll_eq_of_foldlM {sink : Sink σ} {state last : σ} {files : List SourceFile}
    (run : files.foldlM sink.persist state = .ok last) :
    sink.persistAll state files = (last, none) := by
  have ran := Sink.persistAfter_append run [] []
  rw [List.append_nil] at ran
  exact ran

theorem MemoryStore.foldlM_persist_eq (held : MemoryStore) (files : List SourceFile) :
    files.foldlM (sink []).persist held = .ok ⟨held.files ++ files⟩ := by
  induction files generalizing held with
  | nil =>
      rw [List.append_nil]
      rfl
  | cons file rest ih =>
      have others := ih ⟨held.files ++ [file]⟩
      rw [List.append_assoc, List.singleton_append] at others
      exact others

/-- The files that do not share the name of a class that is discarded stay. -/
theorem MemoryStore.discard_files (held : MemoryStore) (gone : SourceFile) :
    ((sink []).discard held gone.package gone.decl.name).files =
      held.files.filter fun file => ¬file.SharesName gone := by
  simp [sink, SourceFile.SharesName, imp_iff_not_or]

/-! ### An empty root -/

/-- A root that is an empty directory or can be made one. -/
def IsEmptyRoot (tree : FileTree) (root : String) : Prop :=
  ∃ ready, tree.makePath root = .ok ready ∧
    ∀ steps, steps ≠ [] → (∀ step ∈ steps, IsStep step) →
      ready.get? (resolve root ++ steps) = none

/-- A directory that is there and has nothing in it is an empty root. -/
theorem isEmptyRoot_of_directory {tree : FileTree} {root : String}
    (there : ∀ place ∈ passed root ++ [resolve root], tree.get? place = some .directory)
    (below : ∀ steps, steps ≠ [] → (∀ step ∈ steps, IsStep step) →
      tree.get? (resolve root ++ steps) = none) : IsEmptyRoot tree root := by
  have free : ∀ place ∈ passed root ++ [resolve root], tree.content? place = none := by
    intro place found
    rw [FileTree.content?, there place found]
  refine ⟨_, FileTree.makeDirectories_eq_ok_iff.mpr ⟨free, rfl⟩, fun steps nonempty plain => ?_⟩
  have absent := below steps nonempty plain
  have notOnWay : resolve root ++ steps ∉ passed root ++ [resolve root] := by
    intro found
    rw [there _ found] at absent
    exact Option.some_ne_none _ absent
  rw [FileTree.get?_addDirectories, absent, if_neg notOnWay, Option.or_none]

/-- The places on the way to a root, from where it starts to where it leads. -/
def OnWay (root : String) (place : List String) : Prop :=
  ∃ front back, components root = front ++ back ∧ front.foldl follow [] = place

/-- A tree in which a root can be made that nothing lies below. -/
structure Hosts (tree : FileTree) (root : String) : Prop where
  onWay : ∀ place, OnWay root place → tree.content? place = none
  below : ∀ steps, steps ≠ [] → (∀ step ∈ steps, IsStep step) →
    tree.get? (resolve root ++ steps) = none
  apart : ∀ place, OnWay root place → ∀ steps, steps ≠ [] → (∀ step ∈ steps, IsStep step) →
    place ≠ resolve root ++ steps

theorem OnWay.mem {root : String} {place : List String} (onWay : OnWay root place) :
    place = [] ∨ place ∈ passed root ++ [resolve root] := by
  obtain ⟨front, back, split, rfl⟩ := onWay
  by_cases start : front = []
  · exact .inl (by rw [start]; rfl)
  by_cases ended : back = []
  · have isEnd : front.foldl follow [] = resolve root := by
      rw [resolve, split, ended, List.append_nil]
    exact .inr (List.mem_append_right _ (List.mem_singleton.mpr isEnd))
  · have isPassed := mem_passed_iff.mpr ⟨front, back, split, start, ended, rfl⟩
    exact .inr (List.mem_append_left _ isPassed)

theorem IsEmptyRoot.hosts {tree : FileTree} {root : String} (empty : IsEmptyRoot tree root) :
    Hosts tree root := by
  obtain ⟨ready, made, nothing⟩ := empty
  obtain ⟨free, rfl⟩ := FileTree.makeDirectories_eq_ok_iff.mp made
  refine ⟨?_, ?_, ?_⟩
  · intro place onWay
    rcases onWay.mem with rfl | found
    · simp [FileTree.content?, FileTree.get?_nil]
    · exact free place found
  · intro steps nonempty plain
    have noneReady := nothing steps nonempty plain
    rw [FileTree.get?_addDirectories] at noneReady
    exact (Option.or_eq_none_iff.mp noneReady).1
  · rintro place onWay steps nonempty plain rfl
    have noneReady := nothing steps nonempty plain
    rcases onWay.mem with isStart | found
    · simp [nonempty] at isStart
    · rw [FileTree.get?_addDirectories, if_pos found] at noneReady
      exact Option.some_ne_none _ (Option.or_eq_none_iff.mp noneReady).2

/-! ### Writing below a root -/

namespace DirectoryStore

variable {root indent : String}

/-- A file is written where no file is on its way and no directory in its place. Then the
directories on its way are there too, and nothing else is new. -/
theorem exists_writeFile {tree : FileTree} {path : String}
    (free : ∀ place ∈ passed path, tree.content? place = none)
    (notThere : tree.get? (resolve path) ≠ some .directory) (notPassed : resolve path ∉ passed path)
    (above : (resolve path).dropLast = [] ∨ (resolve path).dropLast ∈ passed path)
    (content : String) :
    ∃ next, writeFile tree path content = .ok next ∧ ∀ place, next.get? place =
      if place = resolve path then some (.file content)
      else (tree.get? place).or (if place ∈ passed path then some .directory else none) := by
  have made := FileTree.makeDirectories_eq_ok_iff.mpr ⟨free, rfl⟩
  have isFree : ((passed path).foldl FileTree.addDirectory tree).get? (resolve path) ≠
      some .directory := by
    simpa [FileTree.get?_addDirectories, notPassed] using notThere
  have isAbove : ((passed path).foldl FileTree.addDirectory tree).get? (resolve path).dropLast =
      some .directory := by
    rcases above with isStart | isPassed
    · rw [isStart, FileTree.get?_nil]
    · have noFile := free _ isPassed
      rw [FileTree.get?_addDirectories, if_pos isPassed]
      unfold FileTree.content? at noFile
      cases found : tree.get? (resolve path).dropLast with
      | none => rfl
      | some node => cases node <;> simp_all
  have written : FileTree.write _ (resolve path) content = .ok _ :=
    FileTree.write_eq_ok_iff.mpr ⟨isFree, isAbove, rfl⟩
  refine ⟨_, bind_eq_ok_iff.mpr ⟨_, made, written⟩, fun place => ?_⟩
  rw [FileTree.get?_put, FileTree.get?_addDirectories]
  have notRoot : resolve path ≠ [] := by
    intro isStart
    exact notThere (by rw [isStart, FileTree.get?_nil])
  by_cases start : place = []
  · simp [start, notRoot.symm, FileTree.get?_nil]
  · simp [start]

theorem components_pathOf {file : SourceFile} (plain : IsPlainClass file.package file.decl.name) :
    components (pathOf root file) =
      components root ++ classSteps file.package file.decl.name :=
  components_ofClass plain.packageFree plain.nameFree root

theorem placeOf_eq {file : SourceFile} (plain : IsPlainClass file.package file.decl.name) :
    placeOf root file = resolve root ++ classSteps file.package file.decl.name :=
  resolve_ofClass plain.packageFree plain.nameFree root

/-- Plain files of one place share their name. -/
theorem placeOf_eq_placeOf_iff {file other : SourceFile}
    (plain : IsPlainClass file.package file.decl.name)
    (plainOther : IsPlainClass other.package other.decl.name) :
    placeOf root file = placeOf root other ↔ file.SharesName other := by
  rw [placeOf_eq plain, placeOf_eq plainOther, List.append_cancel_left_eq]
  exact classSteps_eq_iff plain.segments plainOther.segments

/-- Paths of plain files are the same when the files share their name. -/
theorem same_pathOf_iff (root : String) {file other : SourceFile}
    (plain : IsPlainClass file.package file.decl.name)
    (plainOther : IsPlainClass other.package other.decl.name) :
    FilePath.same (pathOf root file) (pathOf root other) = true ↔ file.SharesName other := by
  rw [FilePath.same, beq_iff_eq, components_pathOf plain, components_pathOf plainOther,
    List.append_cancel_left_eq]
  exact classSteps_eq_iff plain.segments plainOther.segments

/-- The way to a file leads along the way to the root and then along its package. -/
theorem onWay_or_below_of_mem_passed {file : SourceFile}
    (plain : IsPlainClass file.package file.decl.name) {place : List String}
    (found : place ∈ passed (pathOf root file)) :
    OnWay root place ∨ ∃ steps, steps ≠ [] ∧ (∀ step ∈ steps, step ∈ packageSteps file.package) ∧
      place = resolve root ++ steps := by
  obtain ⟨front, back, split, -, inner, rfl⟩ := mem_passed_iff.mp found
  rw [components_pathOf plain] at split
  -- The beginning that leads to the place ends behind the root's steps or within them.
  rcases List.append_eq_append_iff.mp split with ⟨steps, rfl, rest⟩ | ⟨rest, onRoot, -⟩
  · by_cases start : steps = []
    · exact .inl ⟨components root, [], by simp, by simp [start]⟩
    · obtain ⟨last, shape⟩ : ∃ last, packageSteps file.package = steps ++ last := by
        obtain ⟨before, final, rfl⟩ := (List.eq_nil_or_concat' back).resolve_left inner
        rw [← List.append_assoc] at rest
        exact ⟨before, (List.append_inj' rest rfl).1⟩
      have inPackage : ∀ step ∈ steps, step ∈ packageSteps file.package := by
        intro step isStep
        rw [shape]
        exact List.mem_append_left _ isStep
      refine .inr ⟨steps, start, inPackage, ?_⟩
      rw [List.foldl_append, ← resolve,
        foldl_follow fun step isStep =>
          isStep_of_mem_packageSteps plain.packageFree (inPackage step isStep)]
  · exact .inl ⟨front, rest, onRoot, rfl⟩

/-- The directory of a plain file is on the way to it. -/
theorem dropLast_placeOf {file : SourceFile} (plain : IsPlainClass file.package file.decl.name) :
    (placeOf root file).dropLast = [] ∨
      (placeOf root file).dropLast ∈ passed (pathOf root file) := by
  have isDirectory : (placeOf root file).dropLast =
      (components root ++ packageSteps file.package).foldl follow [] := by
    rw [placeOf_eq plain, classSteps, ← List.append_assoc, List.dropLast_concat,
      List.foldl_append, ← resolve,
      foldl_follow fun step found => isStep_of_mem_packageSteps plain.packageFree found]
  by_cases start : components root ++ packageSteps file.package = []
  · exact .inl (by rw [isDirectory, start]; rfl)
  · refine .inr (mem_passed_iff.mpr ⟨_, [file.decl.name ++ ".java"], ?_, start, by simp, ?_⟩)
    · rw [components_pathOf plain, classSteps, List.append_assoc]
    · exact isDirectory.symm

end DirectoryStore

namespace Hosts

variable {start : FileTree} {root : String}

/-- No class has its file on the way to another. -/
theorem ne_of_mem_passed (hosts : Hosts start root) {file : SourceFile}
    (plain : IsPlainClass file.package file.decl.name) {place : List String}
    (found : place ∈ passed (DirectoryStore.pathOf root file)) {package name : String}
    (plainOther : IsPlainClass package name) :
    place ≠ resolve root ++ classSteps package name := by
  rcases DirectoryStore.onWay_or_below_of_mem_passed plain found with
    onWay | ⟨steps, -, inPackage, rfl⟩
  · exact hosts.apart place onWay _ (classSteps_ne_nil package name)
      (isStep_of_mem_classSteps plainOther.packageFree plainOther.nameFree)
  · intro same
    obtain ⟨step, isStep, outside⟩ := exists_mem_classSteps package name file.package
    rw [← List.append_cancel_left same] at isStep
    exact outside (inPackage step isStep)

theorem class_absent (hosts : Hosts start root) {package name : String}
    (plain : IsPlainClass package name) :
    start.get? (resolve root ++ classSteps package name) = none :=
  hosts.below _ (classSteps_ne_nil package name)
    (isStep_of_mem_classSteps plain.packageFree plain.nameFree)

/-- Nothing is in the way of a file below a root that is empty. -/
theorem content?_of_mem_passed (hosts : Hosts start root) {file : SourceFile}
    (plain : IsPlainClass file.package file.decl.name) {place : List String}
    (found : place ∈ passed (DirectoryStore.pathOf root file)) : start.content? place = none := by
  rcases DirectoryStore.onWay_or_below_of_mem_passed plain found with
    onWay | ⟨steps, nonempty, inPackage, rfl⟩
  · exact hosts.onWay place onWay
  · have absent := hosts.below steps nonempty fun step isStep =>
      isStep_of_mem_packageSteps plain.packageFree (inPackage step isStep)
    rw [FileTree.content?, absent]

end Hosts

/-! ### Both sinks at once -/

/-- A directory store, begun in some tree, that holds the files of a memory store below its root and
whose directories leave room for those of all other classes. -/
structure Simulates (start : FileTree) (root indent : String) (held : MemoryStore)
    (store : DirectoryStore) : Prop where
  plain : ∀ file ∈ held.files, IsPlainClass file.package file.decl.name
  apart : held.files.Pairwise fun file other => ¬file.SharesName other
  written : store.written = held.files.map (DirectoryStore.pathOf root)
  sources : ∀ file ∈ held.files,
    store.tree.content? (DirectoryStore.placeOf root file) = some (file.render indent)
  beside : ∀ place, (∀ file ∈ held.files, DirectoryStore.placeOf root file ≠ place) →
    store.tree.content? place = start.content? place
  room : ∀ package name, IsPlainClass package name →
    store.tree.get? (resolve root ++ classSteps package name) ≠ some .directory

namespace Simulates

variable {start : FileTree} {root indent : String} {held : MemoryStore} {store : DirectoryStore}

/-- At the start nothing is held. -/
theorem init (hosts : Hosts start root) : Simulates start root indent {} ⟨start, []⟩ where
  plain _ isHeld := nomatch isHeld
  apart := .nil
  written := rfl
  sources _ isHeld := nomatch isHeld
  beside _ _ := rfl
  room package name plain := by
    rw [hosts.class_absent plain]
    simp

/-- A held file does not lie where a class of another name goes. -/
theorem placeOf_ne (sim : Simulates start root indent held store) {file other : SourceFile}
    (plain : IsPlainClass file.package file.decl.name) (isHeld : other ∈ held.files)
    (apart : ¬other.SharesName file) :
    DirectoryStore.placeOf root other ≠ DirectoryStore.placeOf root file :=
  mt (DirectoryStore.placeOf_eq_placeOf_iff (sim.plain other isHeld) plain).mp apart

/-- The file of a class can be written, and there is still room for those of all others. -/
theorem exists_write (hosts : Hosts start root) (sim : Simulates start root indent held store)
    {file : SourceFile} (plain : IsPlainClass file.package file.decl.name) :
    ∃ tree, DirectoryStore.writeFile store.tree (DirectoryStore.pathOf root file)
        (file.render indent) = .ok tree ∧
      ∀ package name, IsPlainClass package name →
        tree.get? (resolve root ++ classSteps package name) ≠ some .directory := by
  have isPlace : DirectoryStore.placeOf root file = _ := DirectoryStore.placeOf_eq plain
  have free : ∀ place ∈ passed (DirectoryStore.pathOf root file),
      store.tree.content? place = none := by
    intro place found
    rw [← hosts.content?_of_mem_passed plain found]
    apply sim.beside
    intro other isHeld
    have plainOther := sim.plain other isHeld
    rw [DirectoryStore.placeOf_eq plainOther]
    exact (hosts.ne_of_mem_passed plain found plainOther).symm
  have notThere : store.tree.get? (DirectoryStore.placeOf root file) ≠ some .directory := by
    rw [isPlace]
    exact sim.room _ _ plain
  have notPassed : DirectoryStore.placeOf root file ∉ passed (DirectoryStore.pathOf root file) :=
    fun found => hosts.ne_of_mem_passed plain found plain isPlace
  obtain ⟨tree, wrote, nodes⟩ := DirectoryStore.exists_writeFile free notThere notPassed
    (DirectoryStore.dropLast_placeOf plain) (file.render indent)
  refine ⟨tree, wrote, fun package name plainOther => ?_⟩
  have notOnWay : resolve root ++ classSteps package name ∉
      passed (DirectoryStore.pathOf root file) :=
    fun found => hosts.ne_of_mem_passed plain found plainOther rfl
  have roomBefore := sim.room package name plainOther
  rw [nodes]
  split
  · simp
  · simpa [notOnWay] using roomBefore

theorem persist (hosts : Hosts start root) (sim : Simulates start root indent held store)
    {file : SourceFile} (plain : IsPlainClass file.package file.decl.name)
    (lacks : ∀ other ∈ held.files, ¬other.SharesName file) :
    ∃ next, (DirectoryStore.sink root indent).persist store file = .ok next ∧
      Simulates start root indent ⟨held.files ++ [file]⟩ next := by
  obtain ⟨tree, wrote, room⟩ := sim.exists_write hosts plain
  have persisted : (DirectoryStore.sink root indent).persist store file =
      .ok ⟨tree, store.written ++ [DirectoryStore.pathOf root file]⟩ := by
    simp only [DirectoryStore.sink, wrote]
  obtain ⟨contents, -⟩ := DirectoryStore.persist_eq_ok persisted
  refine ⟨_, persisted, ?_, ?_, ?_, ?_, ?_, room⟩
  · exact List.forall_mem_append.mpr ⟨sim.plain, List.forall_mem_singleton.mpr plain⟩
  · exact List.pairwise_append.mpr
      ⟨sim.apart, List.pairwise_singleton _ _, by simpa using lacks⟩
  · rw [sim.written, List.map_append]
    rfl
  · intro other found
    rw [contents]
    rcases List.mem_append.mp found with isHeld | isNew
    · rw [Function.update_of_ne (sim.placeOf_ne plain isHeld (lacks other isHeld)),
        sim.sources other isHeld]
    · obtain rfl := List.mem_singleton.mp isNew
      exact Function.update_self _ _ _
  · intro place beside
    obtain ⟨besideHeld, notHere⟩ := List.forall_mem_append.mp beside
    rw [contents, Function.update_of_ne (List.forall_mem_singleton.mp notHere).symm,
      sim.beside place besideHeld]

theorem discard (hosts : Hosts start root) (sim : Simulates start root indent held store)
    {gone : SourceFile} (plain : IsPlainClass gone.package gone.decl.name) :
    Simulates start root indent
      ((MemoryStore.sink []).discard held gone.package gone.decl.name)
      ((DirectoryStore.sink root indent).discard store gone.package gone.decl.name) := by
  have left := MemoryStore.discard_files held gone
  have isLeft {file : SourceFile} :
      file ∈ ((MemoryStore.sink []).discard held gone.package gone.decl.name).files ↔
        file ∈ held.files ∧ ¬file.SharesName gone := by
    rw [left, List.mem_filter, decide_eq_true_iff]
  obtain ⟨contents, written⟩ := DirectoryStore.discard_spec root indent store gone
  refine ⟨?_, ?_, ?_, ?_, ?_, ?_⟩
  · intro file found
    exact sim.plain file (isLeft.mp found).1
  · rw [left]
    exact sim.apart.filter _
  · rw [written, left, sim.written, List.filter_map]
    refine congrArg (List.map _) (List.filter_congr fun file isHeld => ?_)
    have samePath := DirectoryStore.same_pathOf_iff root (sim.plain file isHeld) plain
    rw [Function.comp_apply, Bool.eq_iff_iff, Bool.not_eq_true', ← Bool.not_eq_true,
      decide_eq_true_iff]
    exact not_congr samePath
  · intro file found
    obtain ⟨isHeld, other⟩ := isLeft.mp found
    rw [contents, Function.update_of_ne (sim.placeOf_ne plain isHeld other),
      sim.sources file isHeld]
  · intro place beside
    rw [contents]
    by_cases here : place = DirectoryStore.placeOf root gone
    · rw [here, Function.update_self, DirectoryStore.placeOf_eq plain, FileTree.content?,
        hosts.class_absent plain]
    · rw [Function.update_of_ne here]
      apply sim.beside
      intro file isHeld
      by_cases shares : file.SharesName gone
      · rw [(DirectoryStore.placeOf_eq_placeOf_iff (sim.plain file isHeld) plain).mpr shares]
        exact Ne.symm here
      · exact beside file (isLeft.mpr ⟨isHeld, shares⟩)
  · intro other otherName plainOther isDirectory
    simp only [DirectoryStore.sink] at isDirectory
    exact sim.room other otherName plainOther (FileTree.get?_of_get?_remove isDirectory)

theorem persistEach (hosts : Hosts start root) (sim : Simulates start root indent held store)
    {files : List SourceFile}
    (plain : ∀ file ∈ files, IsPlainClass file.package file.decl.name) (lacks : held.Lacks files)
    (apart : files.Pairwise fun file other => ¬file.SharesName other) :
    ∃ last, files.foldlM (DirectoryStore.sink root indent).persist store = .ok last ∧
      Simulates start root indent ⟨held.files ++ files⟩ last := by
  induction files generalizing held store with
  | nil => exact ⟨store, rfl, by rwa [List.append_nil]⟩
  | cons file rest ih =>
      obtain ⟨plainFirst, plainRest⟩ := List.forall_mem_cons.mp plain
      obtain ⟨apartFirst, apartRest⟩ := List.pairwise_cons.mp apart
      obtain ⟨next, persisted, simNext⟩ := sim.persist hosts plainFirst fun other isHeld =>
        lacks other isHeld file List.mem_cons_self
      have lacksRest : MemoryStore.Lacks ⟨held.files ++ [file]⟩ rest := by
        intro other found later isLater
        rcases List.mem_append.mp found with isHeld | isNew
        · exact lacks other isHeld later (List.mem_cons_of_mem file isLater)
        · obtain rfl := List.mem_singleton.mp isNew
          exact apartFirst later isLater
      obtain ⟨last, run, simLast⟩ := ih simNext plainRest lacksRest apartRest
      rw [List.append_assoc, List.singleton_append] at simLast
      refine ⟨last, ?_, simLast⟩
      rw [List.foldlM_cons, persisted]
      exact run

/-- A step that names plain classes and persists none that is held fails on neither sink and keeps
the stores alike. -/
theorem step (hosts : Hosts start root) (sim : Simulates start root indent held store)
    {step : SinkStep} (plain : step.IsPlain) (fresh : step.IsFresh held) :
    (step.apply (MemoryStore.sink []) held).2 = none ∧
      (step.apply (DirectoryStore.sink root indent) store).2 = none ∧
      Simulates start root indent (step.apply (MemoryStore.sink []) held).1
        (step.apply (DirectoryStore.sink root indent) store).1 := by
  cases step with
  | persist file =>
      obtain ⟨next, persisted, simNext⟩ := sim.persist hosts (plain file List.mem_cons_self)
        fun other isHeld => fresh.1 other isHeld file List.mem_cons_self
      have inMemory : (SinkStep.persist file).apply (MemoryStore.sink []) held =
          (⟨held.files ++ [file]⟩, none) := rfl
      have inDirectory : (SinkStep.persist file).apply (DirectoryStore.sink root indent) store =
          (next, none) := by
        simp only [SinkStep.apply, persisted]
      rw [inMemory, inDirectory]
      exact ⟨rfl, rfl, simNext⟩
  | discard package name =>
      let gone : SourceFile := ⟨package, { name := name }⟩
      have plainGone : IsPlainClass gone.package gone.decl.name := plain
      exact ⟨rfl, rfl, sim.discard hosts plainGone⟩
  | persistAll files =>
      obtain ⟨last, run, simLast⟩ := sim.persistEach hosts plain fresh.1 fresh.2
      have inMemory : (SinkStep.persistAll files).apply (MemoryStore.sink []) held =
          (⟨held.files ++ files⟩, none) :=
        Sink.persistAll_eq_of_foldlM (MemoryStore.foldlM_persist_eq held files)
      have inDirectory : (SinkStep.persistAll files).apply (DirectoryStore.sink root indent) store =
          (last, none) := Sink.persistAll_eq_of_foldlM run
      rw [inMemory, inDirectory]
      exact ⟨rfl, rfl, simLast⟩

/-- What holds of both sinks after each of several steps. -/
theorem steps (hosts : Hosts start root) (sim : Simulates start root indent held store)
    {steps : List SinkStep} (plain : ∀ step ∈ steps, step.IsPlain)
    (fresh : IsFreshRun held steps) :
    List.Forall₂ (fun inMemory inDirectory => inMemory.2 = none ∧ inDirectory.2 = none ∧
        Simulates start root indent inMemory.1 inDirectory.1)
      ((MemoryStore.sink []).outcomes held steps)
      ((DirectoryStore.sink root indent).outcomes store steps) := by
  induction steps generalizing held store with
  | nil => exact .nil
  | cons step rest ih =>
      obtain ⟨plainFirst, plainRest⟩ := List.forall_mem_cons.mp plain
      obtain ⟨freshFirst, freshRest⟩ := fresh
      have first := sim.step hosts plainFirst freshFirst
      exact .cons first (ih first.2.2 plainRest freshRest)

end Simulates

/-- A directory store that agrees with a memory store: the written paths are those of the files
held, in order and each once, the files below the root lie where these paths lead, and each has the
source held under its qualified name. -/
structure Mirrors (root indent : String) (held : MemoryStore) (store : DirectoryStore) : Prop where
  written : store.written = held.files.map fun file => push root file.relativePath
  distinct : store.written.Nodup
  files : ∀ steps, steps ≠ [] → (∀ step ∈ steps, IsStep step) →
    (store.tree.isFile (resolve root ++ steps) = true ↔
      ∃ path ∈ store.written, resolve path = resolve root ++ steps)
  contents : ∀ file ∈ held.files,
    store.tree.content? (resolve (push root file.relativePath)) =
      held.source? indent file.qualifiedName

theorem Simulates.mirrors {start : FileTree} {root indent : String} {held : MemoryStore}
    {store : DirectoryStore} (hosts : Hosts start root)
    (sim : Simulates start root indent held store) : Mirrors root indent held store where
  written := sim.written
  distinct := by
    rw [sim.written, List.nodup_iff_pairwise_ne, List.pairwise_map]
    apply sim.apart.imp_of_mem
    intro file other isHeld isOther differ same
    apply differ
    rw [← DirectoryStore.same_pathOf_iff root (sim.plain file isHeld) (sim.plain other isOther),
      same]
    exact beq_self_eq_true _
  files := by
    intro steps nonempty plain
    rw [sim.written]
    constructor
    · intro isFile
      by_contra noneThere
      have absent := sim.beside (resolve root ++ steps) fun file isHeld here =>
        noneThere ⟨_, List.mem_map_of_mem isHeld, here⟩
      rw [FileTree.isFile, absent, FileTree.content?, hosts.below steps nonempty plain] at isFile
      simp at isFile
    · rintro ⟨path, isWritten, here⟩
      obtain ⟨file, isHeld, rfl⟩ := List.mem_map.mp isWritten
      rw [← here, FileTree.isFile]
      exact congrArg Option.isSome (sim.sources file isHeld)
  contents := by
    intro file isHeld
    have isSome : (held.get? file.qualifiedName).isSome = true :=
      List.find?_isSome.mpr ⟨file, isHeld, beq_self_eq_true _⟩
    obtain ⟨first, found⟩ := Option.isSome_iff_exists.mp isSome
    have isFirst := List.mem_of_find?_eq_some found
    have sameName : first.qualifiedName = file.qualifiedName := by
      simpa using List.find?_some found
    have shares : first.SharesName file :=
      (Naming.qualify_inj (sim.plain first isFirst).noDot (sim.plain file isHeld).noDot).mp sameName
    have same : first = file := by
      by_contra differ
      have symmetric : Std.Symm fun one other : SourceFile => ¬one.SharesName other :=
        ⟨fun _ _ apart same => apart ⟨same.1.symm, same.2.symm⟩⟩
      exact sim.apart.forall isFirst isHeld differ shares
    rw [MemoryStore.source?, found, same]
    exact sim.sources file isHeld

/-- Steps that name plain classes, and persist none that is still held, run on an empty memory sink
and on a directory sink below an empty root. None of them fails on either sink, and after each one
the directory store agrees with the memory store. -/
theorem directory_sink_mirrors_memory_sink (root indent : String) (tree : FileTree)
    (steps : List SinkStep) (empty : IsEmptyRoot tree root)
    (plain : ∀ step ∈ steps, step.IsPlain) (fresh : IsFreshRun {} steps) :
    List.Forall₂ (fun inMemory inDirectory => inMemory.2 = none ∧ inDirectory.2 = none ∧
        Mirrors root indent inMemory.1 inDirectory.1)
      ((MemoryStore.sink []).outcomes {} steps)
      ((DirectoryStore.sink root indent).outcomes ⟨tree, []⟩ steps) := by
  have hosts := empty.hosts
  have begun : Simulates tree root indent {} ⟨tree, []⟩ := .init hosts
  apply (begun.steps hosts plain fresh).imp
  rintro inMemory inDirectory ⟨accepted, written, sim⟩
  exact ⟨accepted, written, sim.mirrors hosts⟩

/-- A class is persisted, discarded and persisted again. In between, a class of its name in the
package above is persisted together with one in the default package. -/
theorem directory_sink_mirrors_repersisted_class :
    let file (package name : String) : SourceFile := ⟨package, { name := name }⟩
    let steps : List SinkStep :=
      [.persist (file "a.b" "C"), .persistAll [file "" "D", file "a" "C"], .discard "a.b" "C",
        .persist (file "a.b" "C")]
    let start : DirectoryStore := ⟨.ofEntries [("out", .directory)], []⟩
    let stores := (DirectoryStore.sink "out" "\t").outcomes start steps
    stores.map (·.1.written) =
        [["out/a/b/C.java"], ["out/a/b/C.java", "out/D.java", "out/a/C.java"],
          ["out/D.java", "out/a/C.java"], ["out/D.java", "out/a/C.java", "out/a/b/C.java"]] ∧
      List.Forall₂ (fun inMemory inDirectory => inMemory.2 = none ∧ inDirectory.2 = none ∧
          Mirrors "out" "\t" inMemory.1 inDirectory.1)
        ((MemoryStore.sink []).outcomes {} steps) stores := by
  intro file steps start stores
  have empty : IsEmptyRoot start.tree "out" := by
    have entries : start.tree = ⟨[(["out"], .directory)]⟩ := by decide +kernel
    have isPlace : resolve "out" = ["out"] := by decide +kernel
    rw [entries]
    refine isEmptyRoot_of_directory (by decide +kernel) fun below nonempty _ => ?_
    rw [isPlace]
    simp [FileTree.get?, nonempty]
  have plain : ∀ step ∈ steps, step.IsPlain := by decide +kernel
  have fresh : IsFreshRun {} steps := by decide +kernel
  refine ⟨by decide +kernel, ?_⟩
  exact directory_sink_mirrors_memory_sink "out" "\t" start.tree steps empty plain fresh

end AdapterGen
