import AdapterGen.FileTree
import Mathlib.Logic.Function.Basic

/-!
# The files of a tree

What each operation does to the contents of files, seen as a function of the place. Directories
come and go without any file being touched, a write changes one place and so does a removal.
-/

namespace AdapterGen.FileTree

theorem lookup_filter_ne {path place : List String} (apart : place ≠ path)
    (entries : List (List String × FileNode)) :
    (entries.filter (·.1 ≠ path)).lookup place = entries.lookup place := by
  induction entries with
  | nil => rfl
  | cons entry rest ih =>
      obtain ⟨key, node⟩ := entry
      by_cases same : key = path
      · subst same
        have differs : (place == key) = false := beq_false_of_ne apart
        simpa [List.lookup_cons, differs] using ih
      · simp only [ne_eq, same, not_false_eq_true, decide_true, List.filter_cons_of_pos,
          List.lookup_cons]
        rw [← ih]

theorem lookup_filter_self (path : List String) (entries : List (List String × FileNode)) :
    (entries.filter (·.1 ≠ path)).lookup path = none := by
  rw [List.lookup_eq_none_iff]
  intro entry found
  have apart : entry.1 ≠ path := by simpa using (List.mem_filter.mp found).2
  exact bne_iff_ne.mpr (Ne.symm apart)

theorem get?_put (tree : FileTree) (path place : List String) (node : FileNode) :
    (tree.put path node).get? place =
      if place = [] then some .directory
      else if place = path then some node else tree.get? place := by
  unfold get? put
  split
  · rfl
  · split
    · rename_i same
      simp [same]
    · rename_i apart
      have differs : (place == path) = false := beq_false_of_ne apart
      rw [List.lookup_cons, differs]
      exact lookup_filter_ne apart tree.entries

theorem get?_erase (tree : FileTree) (path place : List String) :
    (tree.erase path).get? place =
      if place = [] then some .directory
      else if place = path then none else tree.get? place := by
  unfold get? erase
  split
  · rfl
  · split
    · rename_i same
      subst same
      exact lookup_filter_self place tree.entries
    · rename_i apart
      exact lookup_filter_ne apart tree.entries

theorem get?_nil (tree : FileTree) : tree.get? [] = some .directory := if_pos rfl

/-- What a removal leaves was there before. -/
theorem get?_of_get?_remove {tree : FileTree} {path place : List String} {node : FileNode}
    (found : (tree.remove path).get? place = some node) : tree.get? place = some node := by
  unfold remove at found
  split at found
  · rw [get?_erase] at found
    split at found
    · rename_i root
      rw [root, get?_nil, found]
    · split at found
      · nomatch found
      · exact found
  · exact found

/-! ### Making directories -/

theorem get?_addDirectory (tree : FileTree) (path place : List String) :
    (tree.addDirectory path).get? place =
      (tree.get? place).or (if place = path then some .directory else none) := by
  unfold addDirectory
  cases found : tree.get? path with
  | some node =>
      by_cases same : place = path
      · simp [same, found]
      · simp [same]
  | none =>
      have notRoot : path ≠ [] := by
        rintro rfl
        simp [get?_nil] at found
      by_cases same : place = path
      · simp [same, get?_put, notRoot, found]
      · by_cases root : place = []
        · simp [root, get?_nil]
        · simp [same, root, get?_put]

theorem get?_addDirectories (tree : FileTree) (way : List (List String)) (place : List String) :
    (way.foldl addDirectory tree).get? place =
      (tree.get? place).or (if place ∈ way then some .directory else none) := by
  induction way generalizing tree with
  | nil => simp
  | cons path rest ih =>
      rw [List.foldl_cons, ih, get?_addDirectory, Option.or_assoc]
      congr 1
      by_cases here : place = path <;> simp [here]

/-- Directories are made where no file is in their way. -/
theorem makeDirectories_eq_ok_iff {tree next : FileTree} {way : List (List String)} :
    tree.makeDirectories way = .ok next ↔
      (∀ place ∈ way, tree.content? place = none) ∧ way.foldl addDirectory tree = next := by
  have noFile : way.any tree.isFile = false ↔ ∀ place ∈ way, tree.content? place = none := by
    simp [isFile]
  have noneBefore (free : ∀ place ∈ way, tree.content? place = none) :
      way.dropLast.any tree.isFile = false := by
    rw [List.any_eq_false]
    intro place found
    simp [isFile, free place (List.dropLast_subset way found)]
  unfold makeDirectories
  constructor
  · intro made
    split at made
    · nomatch made
    · split at made
      · nomatch made
      · rename_i free
        exact ⟨noFile.mp (Bool.eq_false_iff.mpr free), Except.ok.inj made⟩
  · rintro ⟨free, rfl⟩
    rw [noneBefore free, noFile.mpr free]
    rfl

/-- A directory that is made is there, unless it is in the place of a file. -/
theorem get?_of_makeDirectories {tree next : FileTree} {way : List (List String)}
    (made : tree.makeDirectories way = .ok next) {place : List String} (found : place ∈ way) :
    next.get? place = some .directory := by
  obtain ⟨free, rfl⟩ := makeDirectories_eq_ok_iff.mp made
  have noFile := free place found
  rw [get?_addDirectories, if_pos found]
  unfold content? at noFile
  cases there : tree.get? place with
  | none => rfl
  | some node => cases node <;> simp_all

/-! ### Contents -/

theorem content?_addDirectory (tree : FileTree) (path : List String) :
    (tree.addDirectory path).content? = tree.content? := by
  unfold addDirectory
  split
  · rfl
  · rename_i free
    funext place
    unfold content?
    rw [get?_put]
    by_cases root : place = []
    · simp [root, get?]
    · by_cases same : place = path
      · subst same
        have absent : tree.get? place = none := by simpa using free
        simp [root, absent]
      · simp [root, same]

theorem content?_addDirectories (tree : FileTree) (way : List (List String)) :
    (way.foldl addDirectory tree).content? = tree.content? := by
  induction way generalizing tree with
  | nil => rfl
  | cons path rest ih => exact (ih (tree.addDirectory path)).trans (content?_addDirectory tree path)

theorem content?_makeDirectories {tree next : FileTree} {way : List (List String)}
    (made : tree.makeDirectories way = .ok next) : next.content? = tree.content? := by
  obtain ⟨-, rfl⟩ := makeDirectories_eq_ok_iff.mp made
  exact content?_addDirectories tree way

/-- A file is written where its directory is and no other one is in its place. -/
theorem write_eq_ok_iff {tree next : FileTree} {path : List String} {content : String} :
    tree.write path content = .ok next ↔ tree.get? path ≠ some .directory ∧
      tree.get? path.dropLast = some .directory ∧ tree.put path (.file content) = next := by
  unfold write isDirectory isFile content?
  simp only [beq_iff_eq]
  constructor
  · intro written
    split at written
    · nomatch written
    · rename_i notThere
      refine ⟨notThere, ?_⟩
      cases above : tree.get? path.dropLast with
      | none => simp [above] at written
      | some node => cases node <;> simp_all
  · rintro ⟨notThere, isThere, rfl⟩
    simp [notThere, isThere]

theorem content?_write {tree next : FileTree} {path : List String} {content : String}
    (written : tree.write path content = .ok next) :
    next.content? = Function.update tree.content? path (some content) := by
  have notRoot : path ≠ [] := by
    rintro rfl
    simp [write, isDirectory, get?] at written
  obtain ⟨-, -, rfl⟩ := write_eq_ok_iff.mp written
  funext place
  by_cases same : place = path
  · subst same
    simp [content?, get?_put, notRoot]
  · rw [Function.update_of_ne same]
    unfold content?
    rw [get?_put]
    by_cases root : place = []
    · simp [root, get?]
    · simp [root, same]

theorem content?_remove (tree : FileTree) (path : List String) :
    (tree.remove path).content? = Function.update tree.content? path none := by
  unfold remove
  split
  · funext place
    by_cases same : place = path
    · subst same
      by_cases root : place = [] <;> simp [content?, get?_erase, root]
    · rw [Function.update_of_ne same]
      unfold content?
      rw [get?_erase]
      by_cases root : place = []
      · simp [root, get?]
      · simp [root, same]
  · rename_i noFile
    have absent : tree.content? path = none := by simpa [isFile] using noFile
    rw [← absent, Function.update_eq_self]

/-! ### Directories stay -/

section

variable {tree next : FileTree} {path place : List String}
  (there : tree.get? place = some .directory)

include there

theorem directory_of_makeDirectories {way : List (List String)}
    (made : tree.makeDirectories way = .ok next) : next.get? place = some .directory := by
  obtain ⟨-, rfl⟩ := makeDirectories_eq_ok_iff.mp made
  rw [get?_addDirectories, there, Option.some_or]

theorem directory_of_write {content : String} (written : tree.write path content = .ok next) :
    next.get? place = some .directory := by
  obtain ⟨notThere, -, rfl⟩ := write_eq_ok_iff.mp written
  have apart : place ≠ path := by
    rintro rfl
    exact notThere there
  rw [get?_put, if_neg apart, there, ite_self]

theorem directory_of_remove : (tree.remove path).get? place = some .directory := by
  unfold remove
  split
  · rename_i isFile
    have apart : place ≠ path := by
      rintro rfl
      simp [FileTree.isFile, content?, there] at isFile
    rw [get?_erase, if_neg apart, there, ite_self]
  · exact there

end

end AdapterGen.FileTree
