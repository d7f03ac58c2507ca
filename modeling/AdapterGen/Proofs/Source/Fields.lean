import AdapterGen.Proofs.Emission.Accepted
import AdapterGen.Proofs.Source.FieldTypes
import AdapterGen.Proofs.Source.Packages

/-!
# Fields of scanned records

A record with named fields gives one field of its target for each, in order. The key of a field is
the one that its attributes give, else its name as it stands in the source, although the parameter
has the name in camel case.

## Implementation notes

A parameter carries a key only where its name is not the key already, and a field takes the name of
its parameter for a key that is missing. The key of a field is stated on its attributes and its name
alone, so that both defaults are passed over.
-/

namespace AdapterGen.Source

/-! ### Keys -/

/-- The new name that settings of a serialized field give, if any does: the last of them counts. -/
inductive SerializedAs (settings : List Attribute) : Option String → Prop
  | renamed {before after : List Attribute} {setting : Attribute} {name : String}
      (stands : settings = before ++ setting :: after)
      (given : setting.renaming? = some (some name))
      (last : ∀ later ∈ after, later.renaming? = some none) : SerializedAs settings (some name)
  | unnamed (silent : ∀ setting ∈ settings, setting.renaming? = some none) :
      SerializedAs settings none

/-- The JSON key of a declared field. -/
inductive HasKey (declared : RecordField) : String → Prop
  | own {marker : Attribute} {key : String}
      (isMarked : attributeNamed? "json" declared.attributes = some marker)
      (given : marker.key? = some key) : HasKey declared key
  | renamed {key : String} (unmarked : attributeNamed? "json" declared.attributes = none)
      (given : SerializedAs (declared.attributes.filter (·.named "serde")) (some key)) :
      HasKey declared key
  | name (unmarked : attributeNamed? "json" declared.attributes = none)
      (unnamed : SerializedAs (declared.attributes.filter (·.named "serde")) none) :
      HasKey declared (withoutRawMark declared.name)

theorem SerializedAs.findSome?_eq {settings : List Attribute} {name : Option String}
    (given : SerializedAs settings name) :
    settings.reverse.findSome? (·.renaming?.join) = name := by
  have silent {later : List Attribute} (all : ∀ setting ∈ later, setting.renaming? = some none) :
      later.reverse.findSome? (·.renaming?.join) = none := by
    refine List.findSome?_eq_none_iff.mpr fun setting isSetting => ?_
    rw [all setting (List.mem_reverse.mp isSetting)]
    rfl
  cases given with
  | unnamed all => exact silent all
  | @renamed _ _ setting name stands given last =>
      have own : setting.renaming?.join = some name := by rw [given]; rfl
      simp [stands, silent last, own]

theorem HasKey.unique {declared : RecordField} {key other : String} (first : HasKey declared key)
    (second : HasKey declared other) : key = other := by
  cases first with
  | own isMarked given =>
      cases second with
      | own isMarkedToo givenToo =>
          obtain rfl := Option.some.inj (isMarked.symm.trans isMarkedToo)
          exact Option.some.inj (given.symm.trans givenToo)
      | renamed unmarked _ => cases isMarked.symm.trans unmarked
      | name unmarked _ => cases isMarked.symm.trans unmarked
  | renamed unmarked given =>
      cases second with
      | own isMarked _ => cases isMarked.symm.trans unmarked
      | renamed _ givenToo =>
          exact Option.some.inj (given.findSome?_eq.symm.trans givenToo.findSome?_eq)
      | name _ unnamed => cases given.findSome?_eq.symm.trans unnamed.findSome?_eq
  | name unmarked unnamed =>
      cases second with
      | own isMarked _ => cases isMarked.symm.trans unmarked
      | renamed _ given => cases given.findSome?_eq.symm.trans unnamed.findSome?_eq
      | name _ _ => rfl

theorem serializedAs_of_forall₂ {settings : List Attribute} {names : List (Option String)}
    (read : List.Forall₂ (fun setting name => setting.renaming? = some name) settings names) :
    SerializedAs settings (names.reverse.findSome? id) := by
  induction read with
  | nil => exact .unnamed (List.forall_mem_nil _)
  | @cons setting name settings names own _ ih =>
      rw [List.reverse_cons, List.findSome?_append]
      generalize names.reverse.findSome? id = later at ih
      cases ih with
      | @renamed before after _ _ stands given last =>
          have behind : setting :: settings = (setting :: before) ++ _ :: after :=
            congrArg (setting :: ·) stands
          exact .renamed behind given last
      | unnamed silent =>
          cases name with
          | none => exact .unnamed (List.forall_mem_cons.mpr ⟨own, silent⟩)
          | some name =>
              have first : setting :: settings = [] ++ setting :: settings := rfl
              exact .renamed first own silent

theorem serializedAs_of_renamingOf {attributes : List Attribute} {name : Option String}
    (given : renamingOf attributes = .ok name) :
    SerializedAs (attributes.filter (·.named "serde")) name := by
  obtain ⟨names, read, given⟩ := bind_eq_ok_iff.mp given
  obtain rfl := Except.ok.inj given
  exact serializedAs_of_forall₂
    ((mapM_eq_ok_iff.mp read).imp fun _ _ own => orError_eq_ok_iff.mp own)

theorem hasKey_of_keyOf {declared : RecordField} {key : Option String}
    (given : keyOf declared.attributes = .ok key) :
    HasKey declared (key.getD (withoutRawMark declared.name)) := by
  unfold keyOf at given
  split at given
  · rename_i marker isMarked
    obtain ⟨name, named, rfl⟩ := orError_map_eq_ok_iff.mp given
    exact .own isMarked named
  · rename_i unmarked
    have serialized := serializedAs_of_renamingOf given
    cases key with
    | some name => exact .renamed unmarked serialized
    | none => exact .name unmarked serialized

/-! ### Fields -/

/-- The field that a declared field of a record gives. -/
structure GivesField (names : Names) (declared : RecordField) (field : Field) : Prop where
  name : field.name = Naming.camelCase (withoutRawMark declared.name)
  key : ∀ key, HasKey declared key ↔ key = field.jsonName
  nullable : field.nullable = true ↔
    (∃ qualifier inner, declared.type = .path qualifier "Option" [inner]) ∨
      ∃ said ∈ declared.attributes, said.named "nullable" = true
  type : declared.type.resolve names = .ok field.type
  argumentsBoxed : field.type.ArgumentsBoxed
  notPrimitive : ∀ qualifier args, declared.type = .path qualifier "Option" args →
    ∀ kind, field.type ≠ .primitive kind

variable {config : Config} {marker : String} {names : Names}

theorem isNullable_iff {declared : RecordField} : declared.isNullable = true ↔
    (∃ qualifier inner, declared.type = .path qualifier "Option" [inner]) ∨
      ∃ said ∈ declared.attributes, said.named "nullable" = true := by
  rw [RecordField.isNullable, Bool.or_eq_true, FieldType.isOptional_iff, List.any_eq_true]

theorem annotationsOf_eq_ok {declared : RecordField} {annotations : List String}
    (given : annotationsOf (some marker) declared = .ok annotations) :
    annotations = if declared.isNullable then [marker] else [] := by
  unfold annotationsOf at given
  split at given
  · rename_i isNullable
    rw [if_pos isNullable]
    exact (Except.ok.inj given).symm
  · rename_i required
    rw [if_neg required]
    exact (Except.ok.inj given).symm

/-- A parameter without a key of its own has the name of the field for one. -/
theorem jsonName_getD (key : Option String) (name plain : String) :
    (key <|> if name = plain then none else some plain).getD name = key.getD plain := by
  cases key with
  | some key => rfl
  | none =>
      by_cases same : name = plain
      · simp [same]
      · simp [same]

theorem givesField_of_parameterOf {declared : RecordField} {parameter : Parameter}
    (recognised : config.isNullableMarker marker = true)
    (given : parameterOf (some marker) names declared = .ok parameter) :
    GivesField names declared (Target.fieldOf config parameter) := by
  have resolved := type_of_parameterOf given
  obtain ⟨type, -, given⟩ := bind_eq_ok_iff.mp given
  obtain ⟨annotations, annotated, given⟩ := bind_eq_ok_iff.mp given
  obtain ⟨key, keyed, given⟩ := bind_eq_ok_iff.mp given
  obtain rfl := Except.ok.inj given
  have annotations := annotationsOf_eq_ok annotated
  exact {
    name := rfl
    key := fun other => by
      rw [Target.fieldOf, jsonName_getD]
      exact ⟨fun isKey => isKey.unique (hasKey_of_keyOf keyed), fun same =>
        same ▸ hasKey_of_keyOf keyed⟩
    nullable := by
      rw [← isNullable_iff, Target.fieldOf, annotations]
      cases declared.isNullable <;> simp [recognised]
    type := resolved
    argumentsBoxed := FieldType.argumentsBoxed_of_resolve resolved
    notPrimitive := fun qualifier args isOption => by
      rw [isOption] at resolved
      exact FieldType.resolve_option_ne_primitive resolved }

/-- Under a marker that is recognised, each record of a source with named fields gives one field of
its target for each, in order. A record whose braces are empty has no constructor to decode. -/
theorem scanned_records_give_fields {package : Option String} {items : List Item}
    {targets : List Target} {registrations : List Registration}
    (recognised : config.isNullableMarker marker = true)
    (scanned : scanItems package (some marker) items = .ok (targets, registrations)) :
    ∃ known,
      List.Forall₂
        (fun declared target => ∀ fields, declared.1.fields = .named fields →
          (fields ≠ [] → ∃ extracted, target.fields config = .ok extracted ∧
            List.Forall₂ (GivesField ⟨declared.2, known⟩) fields extracted) ∧
          (fields = [] →
            target.fields config = .error (.emptyConstructor target.qualifiedName)))
        ((Item.placesOf [] items).filterMap (·.marked? package)) targets := by
  obtain ⟨known, given, -⟩ := scanItems_places scanned
  refine ⟨known, given.imp fun declared target gives fields shape => ?_⟩
  obtain ⟨flags, given⟩ := gives.given
  obtain ⟨parameters, single, each⟩ := constructor_of_targetOf shape given
  refine ⟨fun nonempty => ?_, ?_⟩
  · have filled : parameters ≠ [] := by
      rintro rfl
      exact nonempty (List.forall₂_nil_right_iff.mp each)
    refine ⟨parameters.map (Target.fieldOf config),
      Target.fields_eq_ok_iff.mpr ⟨parameters, single, filled, rfl⟩, ?_⟩
    rw [List.forall₂_map_right_iff]
    exact each.imp fun _ _ => givesField_of_parameterOf recognised
  · rintro rfl
    obtain rfl := List.forall₂_nil_left_iff.mp each
    rw [Target.fields, single]

/-- A raw name with an option, a key of its own before that of its serialization, and a new name
behind another one. -/
theorem scanned_records_give_fields_of_person :
    let text (value : String) : TokenTree := .literal (.text value) ("\"" ++ value ++ "\"")
    let setting (name key value : String) : Attribute :=
      ⟨false, [name], .list [.name key, .punct '=' false, text value]⟩
    let number : FieldType := .path [] "i32" []
    let fields : List RecordField :=
      [⟨[], "r#type", .path [] "Option" [.path [] "Vec" [.path [] "Box" [number]]]⟩,
        ⟨[setting "serde" "rename" "years", setting "json" "name" "user_age"], "age", number⟩,
        ⟨[setting "serde" "rename" "full", setting "serde" "rename" "fullName",
          ⟨false, ["nullable"], .word⟩], "full_name", .path [] "String" []⟩,
        ⟨[], "home_town", .path [] "Town" [number]⟩]
    let record : Record :=
      ⟨[⟨false, ["generate_moshi"], .word⟩], true, "Person", .named fields⟩
    let marker := "javax.annotation.Nullable"
    let extracted : List Field :=
      [⟨"type", "type", .reference "java.util.List" [.boxed .int], true⟩,
        ⟨"age", "user_age", .primitive .int, false⟩,
        ⟨"fullName", "fullName", .string, true⟩,
        ⟨"homeTown", "home_town", .reference "a.Town" [.boxed .int], false⟩]
    Config.isNullableMarker {} marker = true ∧
      ∃ target known,
        scanItems (some "a") (some marker) [.record record] = .ok ([target], []) ∧
        target.fields {} = .ok extracted ∧
        List.Forall₂ (GivesField ⟨some "a", known⟩) fields extracted := by
  intro text setting number fields record marker extracted
  have recognised : Config.isNullableMarker {} marker = true := by decide +kernel
  let target : Target :=
    { qualifiedName := "a.Person", package := some "a"
      constructors :=
        [[{ name := "type", type := .reference "java.util.List" [.boxed .int],
            annotations := [marker] },
          { name := "age", type := .primitive .int, jsonName := some "user_age" },
          { name := "fullName", type := .string, annotations := [marker],
            jsonName := some "fullName" },
          { name := "homeTown", type := .reference "a.Town" [.boxed .int],
            jsonName := some "home_town" }]] }
  have scanned : scanItems (some "a") (some marker) [.record record] = .ok ([target], []) := by
    decide +kernel
  have isExtracted : target.fields {} = .ok extracted := by decide +kernel
  obtain ⟨known, given⟩ := scanned_records_give_fields recognised scanned
  obtain ⟨own, found, each⟩ := ((List.forall₂_cons.mp given).1 fields rfl).1 (by simp [fields])
  obtain rfl := Except.ok.inj (isExtracted.symm.trans found)
  exact ⟨recognised, target, known, scanned, isExtracted, each⟩

/-- A record whose braces are empty is scanned, and its target has no fields but an error. -/
theorem record_without_fields_is_refused :
    let record : Record := ⟨[⟨false, ["generate_moshi"], .word⟩], true, "S", .named []⟩
    let target : Target :=
      { qualifiedName := "a.S", package := some "a", constructors := [[]] }
    Config.isNullableMarker {} "javax.annotation.Nullable" = true ∧
      scanItems (some "a") (some "javax.annotation.Nullable") [.record record] =
        .ok ([target], []) ∧
      target.fields {} = .error (.emptyConstructor "a.S") := by
  decide +kernel

end AdapterGen.Source
