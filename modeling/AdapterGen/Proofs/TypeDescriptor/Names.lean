import AdapterGen.Proofs.Text.Segments
import AdapterGen.TypeDescriptor.Parse

/-!
# Names of types

Which runs of name characters name a type, and which type a name denotes. Both
are stated without reference to the reader of the type syntax, whose tests
`isTypeName` and `ofName` are shown to decide them.
-/

namespace AdapterGen

namespace PrimitiveKind

theorem ofKeyword?_eq_some_iff {word : String} {kind : PrimitiveKind} :
    ofKeyword? word = some kind ↔ word = kind.keyword := by
  constructor
  · intro found
    have matched := List.find?_some found
    exact (eq_of_beq matched).symm
  · rintro rfl
    exact ofKeyword?_keyword kind

theorem find?_boxedName_eq_some_iff {name : String} {kind : PrimitiveKind} :
    all.find? (·.boxedName == name) = some kind ↔ name = kind.boxedName := by
  constructor
  · intro found
    have matched := List.find?_some found
    exact (eq_of_beq matched).symm
  · rintro rfl
    cases kind <;> decide

/-- The name of a wrapper class with its package. -/
def qualifiedBoxedName (kind : PrimitiveKind) : String := "java.lang." ++ kind.boxedName

theorem ofBoxedName?_eq_some_iff {name : String} {kind : PrimitiveKind} :
    ofBoxedName? name = some kind ↔ name = kind.boxedName ∨ name = kind.qualifiedBoxedName := by
  unfold ofBoxedName?
  rw [find?_boxedName_eq_some_iff]
  unfold withoutWrapperPackage
  by_cases inPackage : wrapperPackage.isPrefixOf name.toList = true
  · obtain ⟨rest, split⟩ := List.isPrefixOf_iff_prefix.mp inPackage
    have whole : name = "java.lang." ++ String.ofList rest := by
      rw [← String.ofList_toList (s := name), ← split, String.ofList_append]
      rfl
    have notSimple : name ≠ kind.boxedName := by
      rintro rfl
      revert inPackage
      cases kind <;> decide
    rw [if_pos inPackage, ← split, List.drop_left]
    simp only [notSimple, false_or]
    simp [whole, qualifiedBoxedName]
  · have notQualified : name ≠ kind.qualifiedBoxedName := by
      rintro rfl
      revert inPackage
      cases kind <;> decide
    rw [if_neg inPackage]
    simp [notQualified]

end PrimitiveKind

namespace TypeDescriptor

/-- A token that names a type: `void` and empty segments are out. -/
structure IsName (name : String) : Prop where
  nonempty : name ≠ ""
  notVoid : name ≠ "void"
  noFirstDot : name.toList.head? ≠ some '.'
  noLastDot : name.toList.getLast? ≠ some '.'
  noDoubleDot : ¬ ['.', '.'] <:+: name.toList

theorem isTypeName_iff {name : String} : isTypeName name = true ↔ IsName name := by
  have emptyIff : name.toList = [] ↔ name = "" := String.toList_eq_nil_iff
  simp only [isTypeName, Bool.and_eq_true, bne_iff_ne, ne_eq, Bool.not_eq_true',
    List.contains_eq_mem, decide_eq_false_iff_not, Text.nil_mem_segments_iff, emptyIff, not_or]
  constructor
  · rintro ⟨notVoid, nonempty, noFirst, noLast, noDouble⟩
    exact ⟨nonempty, notVoid, noFirst, noLast, noDouble⟩
  · rintro ⟨nonempty, notVoid, noFirst, noLast, noDouble⟩
    exact ⟨notVoid, nonempty, noFirst, noLast, noDouble⟩

/-- A name that stands for a type other than a class reference. -/
inductive Reserved : String → TypeDescriptor → Prop
  | keyword (kind : PrimitiveKind) : Reserved kind.keyword (primitive kind)
  | string : Reserved "String" string
  | qualifiedString : Reserved "java.lang.String" string
  | wrapper (kind : PrimitiveKind) : Reserved kind.boxedName (boxed kind)
  | qualifiedWrapper (kind : PrimitiveKind) : Reserved kind.qualifiedBoxedName (boxed kind)

/-- A name that refers to a class by its own spelling. -/
def IsReference (name : String) : Prop := ∀ type, ¬ Reserved name type

theorem ofName_of_reserved {name : String} {type : TypeDescriptor}
    (reserved : Reserved name type) : ofName name = type := by
  cases reserved with
  | keyword kind => cases kind <;> decide
  | string => decide
  | qualifiedString => decide
  | wrapper kind => cases kind <;> decide
  | qualifiedWrapper kind => cases kind <;> decide

theorem ofName_of_isReference {name : String} (free : IsReference name) :
    ofName name = reference name [] := by
  have noKeyword : PrimitiveKind.ofKeyword? name = none := by
    refine Option.eq_none_iff_forall_ne_some.mpr fun kind found => ?_
    rw [PrimitiveKind.ofKeyword?_eq_some_iff] at found
    exact free _ (found ▸ Reserved.keyword kind)
  have noString : ¬ (name = "String" ∨ name = "java.lang.String") := by
    rintro (rfl | rfl)
    · exact free _ .string
    · exact free _ .qualifiedString
  have noWrapper : PrimitiveKind.ofBoxedName? name = none := by
    refine Option.eq_none_iff_forall_ne_some.mpr fun kind found => ?_
    rcases PrimitiveKind.ofBoxedName?_eq_some_iff.mp found with simple | qualified
    · exact free _ (simple ▸ Reserved.wrapper kind)
    · exact free _ (qualified ▸ Reserved.qualifiedWrapper kind)
  simp [ofName, noKeyword, noString, noWrapper]

/-- A name is reserved for one type, or denotes the class of that name. -/
theorem reserved_or_isReference (name : String) :
    Reserved name (ofName name) ∨ IsReference name := by
  by_cases taken : ∃ type, Reserved name type
  · obtain ⟨type, reserved⟩ := taken
    exact .inl (ofName_of_reserved reserved ▸ reserved)
  · exact .inr fun type reserved => taken ⟨type, reserved⟩

theorem Reserved.ne_reference {name : String} {type : TypeDescriptor}
    (reserved : Reserved name type) (other : String) (args : List TypeDescriptor) :
    type ≠ reference other args := by
  cases reserved <;> simp

theorem isReference_iff {name : String} : IsReference name ↔ ofName name = reference name [] := by
  constructor
  · exact ofName_of_isReference
  · intro denoted type reserved
    exact reserved.ne_reference name [] (ofName_of_reserved reserved ▸ denoted)

end TypeDescriptor

end AdapterGen
