import AdapterGen.Emission
import AdapterGen.Proofs.Java.Lines
import AdapterGen.Proofs.Naming
import Mathlib.Data.List.Infix

/-!
# What a factory answers

The method of a factory is a chain of tests for one class each. A class is answered by the first
test for it, and the name of its adapter means the same class as in full when it is read in the
factory's package.

## Implementation notes

The chain is read line by line, whatever names stand in it: a class may be called by a text that is
no name of the language.
-/

namespace AdapterGen

open Code

namespace Emission

/-! ### The chain of tests -/

/-- What stands between a front and a back, in a text that has both. -/
def between? (front back text : String) : Option String :=
  ((front.toList.isPrefixOf? text.toList).bind (back.toList.isSuffixOf? ·)).map String.ofList

theorem between?_append (front middle back : String) :
    between? front back (front ++ middle ++ back) = some middle := by
  have prefixed : front.toList.isPrefixOf? (front ++ middle ++ back).toList =
      some (middle.toList ++ back.toList) :=
    List.isPrefixOf?_eq_some_iff_append_eq.mpr (by simp)
  have suffixed : back.toList.isSuffixOf? (middle.toList ++ back.toList) = some middle.toList :=
    List.isSuffixOf?_eq_some_iff_append_eq.mpr rfl
  unfold between?
  rw [prefixed, Option.bind_some, suffixed, Option.map_some, String.ofList_toList]

/-- A text of another first character does not have the front. -/
theorem between?_eq_none {front back text : String} (nonempty : front ≠ "")
    (differs : text.toList.head? ≠ front.toList.head?) : between? front back text = none := by
  have notPrefix : front.toList.isPrefixOf? text.toList = none := by
    cases isFront : front.toList with
    | nil => exact absurd (String.toList_eq_nil_iff.mp isFront) nonempty
    | cons c cs =>
        cases isText : text.toList with
        | nil => rfl
        | cons d ds =>
            have apart : c ≠ d := by
              rintro rfl
              exact differs (by rw [isFront, isText]; rfl)
            simp [List.isPrefixOf?, apart]
  rw [between?, notPrefix]
  rfl

/-- What a chain of tests answers a class with: the class that the first test for it constructs, or
null at the end of the chain. -/
def chainAnswer? (type : String) : List String → Option (Option String)
  | [ending] => if ending = "return null;" then some none else none
  | test :: result :: closing :: rest => do
      let tested ← between? "if (type == " ".class) \x7b" test
      let constructed ← between? "return new " "(moshi, this, type, annotations);" result
      if closing ≠ "\x7d" then none
      else if tested = type then return some constructed
      else chainAnswer? type rest
  | _ => none

theorem textsOf_dispatchSteps (package : String) (ref : AdapterRef) :
    textsOf (dispatchSteps package ref) =
      ["if (type == " ++ ref.target ++ ".class) \x7b",
        "return new " ++ localReference package ref.adapter ++ "(moshi, this, type, annotations);",
        "\x7d"] := by
  have nonempty : "if (type == " ++ ref.target ++ ".class)" ≠ "" := by simp
  have opening (front : String) : front ++ ".class)" ++ " \x7b" = front ++ ".class) \x7b" := by
    rw [String.append_assoc]
    rfl
  have ending (front : String) : front ++ "(moshi, this, type, annotations)" ++ ";" =
      front ++ "(moshi, this, type, annotations);" := by
    rw [String.append_assoc]
    rfl
  simp [dispatchSteps, textsOf_flow, textsOf, Step.texts, Block.openingText, nonempty, opening,
    ending]

theorem textsOf_createSteps_cons (package : String) (ref : AdapterRef) (rest : List AdapterRef) :
    textsOf (createSteps package (ref :: rest)) =
      textsOf (dispatchSteps package ref) ++ textsOf (createSteps package rest) := by
  simp [createSteps, textsOf_append]

/-- The chain of a factory answers a class with the adapter of the first entry for it. -/
theorem chainAnswer?_createSteps (type package : String) (adapters : List AdapterRef) :
    chainAnswer? type (textsOf (createSteps package adapters)) =
      some ((adapters.find? (·.target == type)).map (localReference package ·.adapter)) := by
  induction adapters with
  | nil => rfl
  | cons ref rest ih =>
      rw [textsOf_createSteps_cons, textsOf_dispatchSteps, List.cons_append, List.cons_append,
        List.cons_append, List.nil_append, chainAnswer?, between?_append, between?_append]
      by_cases first : ref.target = type
      · simp [first]
      · simp [first, ih]

/-- What a factory answers a class with, read from its method. -/
def answer? (file : SourceFile) (type : String) : Option (Option String) :=
  (file.decl.methods.find? (·.name == "create")).bind fun create =>
    chainAnswer? type create.body.texts

theorem answer?_factoryClass (config : Config) (name package : String)
    (adapters : List AdapterRef) (type : String) :
    answer? ⟨package, factoryClass config name package adapters⟩ type =
      some ((adapters.find? (·.target == type)).map (localReference package ·.adapter)) := by
  have texts : (createMethod package adapters).body.texts =
      textsOf (createSteps package adapters) := Block.texts_ofSteps _
  rw [← chainAnswer?_createSteps, ← texts]
  rfl

/-! ### Names of adapters -/

/-- The class that a name means in the code of a package: a dotted name itself, and a simple name
the class of that package. -/
def resolveIn (package reference : String) : String :=
  if '.' ∈ reference.toList then reference else Naming.qualify package reference

/-- A class of a named package is meant by its reference in any package. -/
theorem resolveIn_localReference {home : String} (named : home ≠ "") (package simple : String) :
    resolveIn package (localReference package (Naming.qualify home simple)) =
      Naming.qualify home simple := by
  have chars : (Naming.qualify home simple).toList = home.toList ++ '.' :: simple.toList := by
    simp [Naming.qualify, named]
  unfold localReference
  split
  · rename_i lives
    have noDot := Naming.not_mem_simpleName (Naming.qualify home simple)
    have parts := Naming.packageOf?_eq_some lives
    generalize Naming.simpleName (Naming.qualify home simple) = last at noDot parts
    -- A name that begins with its last dot would have an empty home.
    have isNamed : package ≠ "" := by
      rintro rfl
      obtain ⟨c, cs, isHome⟩ := List.exists_cons_of_ne_nil (mt String.toList_eq_nil_iff.mp named)
      have later : last.toList = cs ++ '.' :: simple.toList := by
        simpa [parts, isHome] using (congrArg List.tail chars)
      exact noDot (later ▸ List.mem_append_right cs List.mem_cons_self)
    rw [resolveIn, if_neg noDot, parts, Naming.qualify, if_neg isNamed]
  · rw [resolveIn, if_pos (by simp [chars])]

end Emission

end AdapterGen
