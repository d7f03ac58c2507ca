import AdapterGen.FilePath
import AdapterGen.Proofs.Text.Segments

/-!
# Pushed paths

Pushing parts is associative, and pushing a plain step leads one step further down. So the file of
a class lies below a root at the segments of its package.
-/

namespace AdapterGen.FilePath

/-! ### Pushing twice -/

/-- What pushing puts between a path and a part that does not start afresh. -/
def gap (base : List Char) : List Char :=
  if base = [] ∨ base.getLast? = some '/' then [] else ['/']

theorem pushChars_of_rooted {base part : List Char} (rooted : part.head? = some '/') :
    pushChars base part = part :=
  if_pos rooted

theorem pushChars_of_relative {base part : List Char} (relative : part.head? ≠ some '/') :
    pushChars base part = base ++ gap base ++ part := by
  unfold pushChars gap
  rw [if_neg relative]
  split <;> simp

theorem gap_append_gap (base : List Char) : gap (base ++ gap base) = [] := by
  by_cases closed : base = [] ∨ base.getLast? = some '/'
  · have none : gap base = [] := if_pos closed
    rw [none, List.append_nil, none]
  · have slash : gap base = ['/'] := if_neg closed
    rw [slash]
    simp [gap]

theorem gap_append {back : List Char} (nonempty : back ≠ []) (front : List Char) :
    gap (front ++ back) = gap back := by
  have sameLast : (front ++ back).getLast? = back.getLast? := by
    rw [List.getLast?_append, List.getLast?_eq_some_getLast nonempty, Option.some_or]
  simp [gap, nonempty, sameLast]

theorem pushChars_assoc (a b c : List Char) :
    pushChars (pushChars a b) c = pushChars a (pushChars b c) := by
  by_cases rootedC : c.head? = some '/'
  · simp [pushChars_of_rooted rootedC]
  rw [pushChars_of_relative rootedC, pushChars_of_relative rootedC]
  by_cases noPart : b = []
  · subst noPart
    have inner : pushChars a [] = a ++ gap a := by
      rw [pushChars_of_relative (by simp), List.append_nil]
    have outer : [] ++ gap [] ++ c = c := by simp [gap]
    rw [inner, gap_append_gap, outer, pushChars_of_relative rootedC]
    simp
  have sameHead : (b ++ gap b ++ c).head? = b.head? := by
    obtain ⟨first, rest, rfl⟩ := List.exists_cons_of_ne_nil noPart
    rfl
  by_cases rootedB : b.head? = some '/'
  · rw [pushChars_of_rooted rootedB, pushChars_of_rooted (sameHead.trans rootedB)]
  · rw [pushChars_of_relative rootedB, pushChars_of_relative (by rwa [sameHead]),
      gap_append noPart]
    simp

theorem push_assoc (a b c : String) : push (push a b) c = push a (push b c) := by
  simp [push, pushChars_assoc]

theorem push_pushes (root base : String) (steps : List String) :
    push root (steps.foldl push base) = steps.foldl push (push root base) := by
  induction steps generalizing base with
  | nil => rfl
  | cons step rest ih => rw [List.foldl_cons, List.foldl_cons, ih, push_assoc]

theorem push_empty_left (part : String) : push "" part = part := by
  unfold push
  by_cases rooted : part.toList.head? = some '/'
  · rw [pushChars_of_rooted rooted, String.ofList_toList]
  · rw [pushChars_of_relative rooted]
    simp [gap]

/-- A path that was joined from parts is pushed by pushing its parts. -/
theorem push_foldl_push (root : String) {parts : List String} (nonempty : parts ≠ []) :
    push root (parts.foldl push "") = parts.foldl push root := by
  obtain ⟨first, rest, rfl⟩ := List.exists_cons_of_ne_nil nonempty
  rw [List.foldl_cons, List.foldl_cons, push_empty_left, push_pushes]

/-! ### Going down -/

/-- A step that leads down: a name that is not one of the two dotted ones. -/
structure IsStep (step : String) : Prop where
  nonempty : step ≠ ""
  notHere : step ≠ "."
  notUp : step ≠ ".."
  noSlash : '/' ∉ step.toList

theorem components_append_slash (front : List Char) {last : List Char} (noSlash : '/' ∉ last) :
    components (String.ofList (front ++ '/' :: last)) =
      (if front = [] then ["/"] else components (String.ofList front)) ++
        [String.ofList last].filter fun step => step ≠ "" ∧ step ≠ "." := by
  have steps : Text.splitAt '/' (String.ofList (front ++ '/' :: last)) =
      Text.splitAt '/' (String.ofList front) ++ [String.ofList last] := by
    simp [Text.splitAt, Text.segments_append_cons, Text.segments_of_not_mem noSlash]
  unfold components
  rw [steps]
  cases front with
  | nil => simp [Text.splitAt, Text.segments, Text.segmentsBy]
  | cons c rest =>
      obtain ⟨first, others, shape⟩ :=
        List.exists_cons_of_ne_nil (Text.splitAt_ne_nil '/' (String.ofList (c :: rest)))
      rw [shape, if_neg (List.cons_ne_nil c rest)]
      dsimp only
      rw [List.filter_append]
      simp

theorem components_push {step : String} (isStep : IsStep step) (base : String) :
    components (push base step) = components base ++ [step] := by
  have noSlash := isStep.noSlash
  have relative : step.toList.head? ≠ some '/' := fun rooted =>
    noSlash (List.mem_of_mem_head? rooted)
  have kept : [step].filter (fun step => step ≠ "" ∧ step ≠ ".") = [step] := by
    simp [isStep.nonempty, isStep.notHere]
  unfold push
  rw [pushChars_of_relative relative]
  -- The two shapes of a base that is not empty: with a slash at its end and without one.
  by_cases empty : base.toList = []
  · obtain rfl : base = "" := String.toList_eq_nil_iff.mp empty
    have alone : components step = [step] := by
      simp [components, Text.splitAt, Text.segments_of_not_mem noSlash, relative,
        isStep.nonempty, isStep.notHere]
    simpa [gap, components, Text.splitAt, Text.segments, Text.segmentsBy] using alone
  by_cases closed : base.toList.getLast? = some '/'
  · obtain ⟨front, shape⟩ := List.getLast?_eq_some_iff.mp closed
    have none : gap base.toList = [] := if_pos (.inr closed)
    have open_ : base = String.ofList (front ++ '/' :: []) := by simp [← shape]
    rw [none, List.append_nil, shape, List.append_assoc, List.singleton_append,
      components_append_slash front noSlash, open_, components_append_slash front (by simp),
      String.ofList_toList, kept]
    simp
  · have slash : gap base.toList = ['/'] := if_neg (by simp [empty, closed])
    rw [slash, List.append_assoc, List.singleton_append, components_append_slash _ noSlash,
      if_neg empty, String.ofList_toList, String.ofList_toList, kept]

/-- The last step of a pushed path is the one that was pushed. -/
theorem getLast?_splitAt_push {step : String} (isStep : IsStep step) (base : String) :
    (Text.splitAt '/' (push base step)).getLast? = some step := by
  have noSlash := isStep.noSlash
  have relative : step.toList.head? ≠ some '/' := fun rooted =>
    noSlash (List.mem_of_mem_head? rooted)
  have behind (front : List Char) :
      (Text.splitAt '/' (String.ofList (front ++ '/' :: step.toList))).getLast? = some step := by
    simp [Text.splitAt, Text.segments_append_cons, Text.segments_of_not_mem noSlash]
  unfold push
  rw [pushChars_of_relative relative]
  by_cases empty : base.toList = []
  · simp [empty, gap, Text.splitAt, Text.segments_of_not_mem noSlash]
  by_cases closed : base.toList.getLast? = some '/'
  · obtain ⟨front, shape⟩ := List.getLast?_eq_some_iff.mp closed
    have none : gap base.toList = [] := if_pos (.inr closed)
    rw [none, List.append_nil, shape, List.append_assoc, List.singleton_append]
    exact behind front
  · have slash : gap base.toList = ['/'] := if_neg (by simp [empty, closed])
    rw [slash, List.append_assoc, List.singleton_append]
    exact behind base.toList

theorem namesDirectory_push {step : String} (isStep : IsStep step) (base : String) :
    namesDirectory (push base step) = false := by
  unfold namesDirectory
  rw [getLast?_splitAt_push isStep]
  simp [isStep.nonempty, isStep.notHere, isStep.notUp]

theorem components_pushes {steps : List String} (plain : ∀ step ∈ steps, IsStep step)
    (base : String) : components (steps.foldl push base) = components base ++ steps := by
  induction steps generalizing base with
  | nil => simp
  | cons step rest ih =>
      obtain ⟨isStep, plainRest⟩ := List.forall_mem_cons.mp plain
      rw [List.foldl_cons, ih plainRest, components_push isStep, List.append_assoc,
        List.singleton_append]

/-- Each of several steps down leads one place further. -/
theorem foldl_follow {steps : List String} (plain : ∀ step ∈ steps, IsStep step)
    (place : List String) : steps.foldl follow place = place ++ steps := by
  induction steps generalizing place with
  | nil => simp
  | cons step rest ih =>
      obtain ⟨isStep, plainRest⟩ := List.forall_mem_cons.mp plain
      have down : follow place step = place ++ [step] := by
        simp [follow, isStep.notHere, isStep.notUp]
      rw [List.foldl_cons, down, ih plainRest, List.append_assoc, List.singleton_append]

/-- The places that a path leads through are where its beginnings lead. -/
theorem mem_passed_iff {path : String} {place : List String} :
    place ∈ passed path ↔ ∃ front back, components path = front ++ back ∧ front ≠ [] ∧
      back ≠ [] ∧ front.foldl follow [] = place := by
  unfold passed
  simp only [List.mem_map, List.mem_range]
  constructor
  · rintro ⟨n, inner, rfl⟩
    refine ⟨_, _, (List.take_append_drop (n + 1) _).symm, ?_, ?_, rfl⟩
    · exact List.ne_nil_of_length_pos (by rw [List.length_take]; omega)
    · exact List.ne_nil_of_length_pos (by rw [List.length_drop]; omega)
  · rintro ⟨front, back, split, nonempty, inner, rfl⟩
    have isFront := List.length_pos_iff.mpr nonempty
    have isBack := List.length_pos_iff.mpr inner
    refine ⟨front.length - 1, by rw [split, List.length_append]; omega, ?_⟩
    rw [split, Nat.sub_add_cancel isFront, List.take_left']
    rfl

/-! ### The files of classes -/

/-- The steps to the directory of a package. -/
def packageSteps (package : String) : List String :=
  (Text.splitAt '.' package).filter (· ≠ "")

theorem not_mem_of_mem_packageSteps {package step : String} (found : step ∈ packageSteps package) :
    '.' ∉ step.toList := by
  obtain ⟨piece, isSegment, rfl⟩ := List.mem_map.mp (List.mem_filter.mp found).1
  intro hasDot
  rw [String.toList_ofList] at hasDot
  exact (Text.mem_of_mem_segments isSegment hasDot).2 rfl

theorem isStep_of_mem_packageSteps {package step : String} (noSlash : '/' ∉ package.toList)
    (found : step ∈ packageSteps package) : IsStep step := by
  have noDot := not_mem_of_mem_packageSteps found
  obtain ⟨isPiece, nonempty⟩ := List.mem_filter.mp found
  obtain ⟨piece, isSegment, rfl⟩ := List.mem_map.mp isPiece
  refine ⟨by simpa using nonempty, ?_, ?_, ?_⟩
  · intro isHere
    exact noDot (by simp [isHere])
  · intro isUp
    exact noDot (by simp [isUp])
  · intro slash
    rw [String.toList_ofList] at slash
    exact noSlash (Text.mem_of_mem_segments isSegment slash).1

theorem isStep_classFile {name : String} (noSlash : '/' ∉ name.toList) :
    IsStep (name ++ ".java") := by
  have long : 5 ≤ (name ++ ".java").toList.length := by simp
  refine ⟨?_, ?_, ?_, by simp [noSlash]⟩
  all_goals
    intro short
    rw [short] at long
    simp at long

/-- A package with no empty segment, or the default one. -/
def IsPackage (package : String) : Prop := package = "" ∨ "" ∉ Text.splitAt '.' package

instance (package : String) : Decidable (IsPackage package) :=
  inferInstanceAs (Decidable (_ ∨ _))

/-- The steps to the directory of a package determine it. -/
theorem packageSteps_inj {package other : String} (valid : IsPackage package)
    (validOther : IsPackage other) (same : packageSteps package = packageSteps other) :
    package = other := by
  have all {name : String} (noEmpty : "" ∉ Text.splitAt '.' name) :
      packageSteps name = Text.splitAt '.' name := by
    apply List.filter_eq_self.mpr
    intro piece isPiece
    exact decide_eq_true fun isEmpty => noEmpty (isEmpty ▸ isPiece)
  have none : packageSteps "" = [] := by decide
  rcases valid with rfl | noEmpty <;> rcases validOther with rfl | noEmptyOther
  · rfl
  · rw [none, all noEmptyOther] at same
    exact absurd same.symm (Text.splitAt_ne_nil '.' other)
  · rw [none, all noEmpty] at same
    exact absurd same (Text.splitAt_ne_nil '.' package)
  · rw [all noEmpty, all noEmptyOther] at same
    rw [← Text.join_splitAt package, same, Text.join_splitAt]

/-- The steps to the file of a class. -/
def classSteps (package name : String) : List String :=
  packageSteps package ++ [name ++ ".java"]

theorem ofClass_eq (package name : String) :
    ofClass package name = (classSteps package name).foldl push "" := by
  rw [classSteps, List.foldl_append]
  rfl

theorem classSteps_ne_nil (package name : String) : classSteps package name ≠ [] :=
  List.concat_ne_nil _ _

/-- The file of a class is reached from a root by its steps, whatever their text is. -/
theorem push_ofClass (root package name : String) :
    push root (ofClass package name) = (classSteps package name).foldl push root := by
  rw [ofClass_eq, push_foldl_push root (classSteps_ne_nil package name)]

section

variable {package name : String} (packageFree : '/' ∉ package.toList)
  (nameFree : '/' ∉ name.toList)

include packageFree nameFree

theorem isStep_of_mem_classSteps : ∀ step ∈ classSteps package name, IsStep step := by
  intro step found
  rcases List.mem_append.mp found with inPackage | isFile
  · exact isStep_of_mem_packageSteps packageFree inPackage
  · exact List.mem_singleton.mp isFile ▸ isStep_classFile nameFree

theorem components_ofClass (root : String) :
    components (push root (ofClass package name)) = components root ++ classSteps package name := by
  rw [push_ofClass, components_pushes (isStep_of_mem_classSteps packageFree nameFree)]

/-- The file of a class lies at the steps of its package. -/
theorem resolve_ofClass (root : String) :
    resolve (push root (ofClass package name)) = resolve root ++ classSteps package name := by
  unfold resolve
  rw [components_ofClass packageFree nameFree, List.foldl_append,
    foldl_follow (isStep_of_mem_classSteps packageFree nameFree)]

end

/-- The steps to the file of a class do not stay within the directories of a package. -/
theorem exists_mem_classSteps (package name other : String) :
    ∃ step ∈ classSteps package name, step ∉ packageSteps other := by
  refine ⟨name ++ ".java", List.mem_append_right _ (List.mem_singleton_self _), fun found => ?_⟩
  exact not_mem_of_mem_packageSteps found (by simp)

/-- The steps to the file of a class determine the class. -/
theorem classSteps_eq_iff {package other name otherName : String} (valid : IsPackage package)
    (validOther : IsPackage other) :
    classSteps package name = classSteps other otherName ↔
      package = other ∧ name = otherName := by
  constructor
  · intro same
    obtain ⟨steps, names⟩ := List.append_inj' same rfl
    exact ⟨packageSteps_inj valid validOther steps, by simpa using names⟩
  · rintro ⟨rfl, rfl⟩
    rfl

/-- Paths of files spell the same path only for one class. -/
theorem same_ofClass_iff {package other name otherName : String} (valid : IsPackage package)
    (validOther : IsPackage other) (packageFree : '/' ∉ package.toList)
    (otherFree : '/' ∉ other.toList) (nameFree : '/' ∉ name.toList)
    (otherNameFree : '/' ∉ otherName.toList) :
    same (ofClass package name) (ofClass other otherName) = true ↔
      package = other ∧ name = otherName := by
  have steps {package name : String} (packageFree : '/' ∉ package.toList)
      (nameFree : '/' ∉ name.toList) :
      components (ofClass package name) = classSteps package name := by
    have below := components_ofClass packageFree nameFree ""
    rwa [push_empty_left] at below
  rw [same, beq_iff_eq, steps packageFree nameFree, steps otherFree otherNameFree,
    classSteps_eq_iff valid validOther]

end AdapterGen.FilePath
