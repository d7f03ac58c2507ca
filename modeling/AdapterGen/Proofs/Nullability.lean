import AdapterGen.Proofs.Emission.Accepted
import AdapterGen.Proofs.Manifest
import AdapterGen.Proofs.Source.Findings

/-!
# Nullable parameters

A provider puts the first configured marker on whatever is declared nullable, and a field is
nullable when an annotation of its parameter is recognised as a marker. The two agree for a marker
that is written without an at sign.

## Implementation notes

An annotation loses the at signs in front of it before it is compared, and a configured marker does
not. So a marker that is configured with an at sign need not be recognised, and what is declared
nullable may give a field that is not.
-/

namespace AdapterGen

/-! ### Markers -/

namespace Config

theorem withoutAt_of_bare {name : String} (bare : name.toList.head? ≠ some '@') :
    withoutAt name = name := by
  unfold withoutAt
  have kept : name.toList.dropWhile (· == '@') = name.toList := by
    cases shape : name.toList with
    | nil => rfl
    | cons c rest =>
        rw [shape] at bare
        have other : (c == '@') = false := by simpa using bare
        exact List.dropWhile_cons_of_neg (by simp [other])
  rw [kept, String.ofList_toList]

theorem isNullableMarker_of_mem {config : Config} {name marker : String}
    (configured : marker ∈ config.nullableAnnotations) (spelled : withoutAt name = marker) :
    config.isNullableMarker name = true :=
  List.any_eq_true.mpr ⟨marker, configured, by simp [spells, spelled]⟩

/-- The marker that providers use is recognised when it is written without an at sign. -/
theorem isNullableMarker_of_bare {config : Config} {marker : String}
    (chosen : config.nullableMarker? = some marker) (bare : marker.toList.head? ≠ some '@') :
    config.isNullableMarker marker = true :=
  isNullableMarker_of_mem (List.mem_of_head? chosen) (withoutAt_of_bare bare)

end Config

/-! ### Fields -/

/-- The fields of a target are nullable wherever what the target was declared with is. -/
def Target.KeepsNullable {α : Type} (target : Target) (config : Config) (nullable : α → Bool)
    (declared : List (List α)) : Prop :=
  ∀ fields, target.fields config = .ok fields →
    ∃ only, declared = [only] ∧
      List.Forall₂ (fun entry field => nullable entry = true → field.nullable = true) only fields

theorem Target.fieldOf_nullable {config : Config} {marker : String} {parameter : Parameter}
    (recognised : config.isNullableMarker marker = true) (marked : marker ∈ parameter.annotations) :
    (Target.fieldOf config parameter).nullable = true :=
  List.any_eq_true.mpr ⟨marker, marked, recognised⟩

theorem Target.keepsNullable_of_marked {α : Type} {target : Target} {config : Config}
    {nullable : α → Bool} {declared : List (List α)} {marker : String}
    (recognised : config.isNullableMarker marker = true)
    (marked : List.Forall₂
      (List.Forall₂ fun entry parameter =>
        nullable entry = true → marker ∈ parameter.annotations)
      declared target.constructors) :
    target.KeepsNullable config nullable declared := by
  intro fields accepted
  obtain ⟨parameters, single, -, rfl⟩ := Target.fields_eq_ok_iff.mp accepted
  rw [single] at marked
  obtain _ | ⟨own, _ | _⟩ := marked
  refine ⟨_, rfl, List.forall₂_map_right_iff.mpr (own.imp ?_)⟩
  intro entry parameter isMarked isNullable
  exact Target.fieldOf_nullable recognised (isMarked isNullable)

/-! ### Manifests -/

namespace Manifest

theorem parameterOf_marked {marker : String} {entry : ManifestParameter} {parameter : Parameter}
    (given : parameterOf (some marker) entry = .ok parameter) (isNullable : entry.nullable = true) :
    marker ∈ parameter.annotations := by
  unfold parameterOf at given
  split at given
  · nomatch given
  · rename_i type parsed
    simp only [isNullable, if_true] at given
    obtain rfl := Except.ok.inj given
    simp

theorem targetOf_keepsNullable {config : Config} {marker : String} {package : Option String}
    {entry : ManifestClass} {target : Target}
    (recognised : config.isNullableMarker marker = true)
    (given : targetOf package (some marker) entry = .ok target) :
    target.KeepsNullable config (·.nullable) entry.constructors := by
  obtain ⟨constructors, read, given⟩ := bind_eq_ok_iff.mp given
  obtain rfl := Except.ok.inj given
  refine Target.keepsNullable_of_marked recognised ((mapM_eq_ok_iff.mp read).imp ?_)
  intro entries parameters read
  refine (mapM_eq_ok_iff.mp read).imp ?_
  exact fun _ _ given => parameterOf_marked (parameterIn_eq_ok_iff.mp given)

end Manifest

/-! ### Sources -/

namespace Source

/-- The constructors that fields declare, as the fields stand. -/
def RecordFields.constructors : RecordFields → List (List RecordField)
  | named fields => [fields]
  | positional => []
  | unit => [[]]

theorem parameterOf_marked {marker : String} {names : Names} {field : RecordField}
    {parameter : Parameter} (given : parameterOf (some marker) names field = .ok parameter)
    (isNullable : field.isNullable = true) : marker ∈ parameter.annotations := by
  obtain ⟨type, -, given⟩ := bind_eq_ok_iff.mp given
  obtain ⟨annotations, marked, given⟩ := bind_eq_ok_iff.mp given
  obtain ⟨key, -, given⟩ := bind_eq_ok_iff.mp given
  obtain rfl := Except.ok.inj given
  unfold annotationsOf at marked
  rw [if_pos isNullable] at marked
  obtain rfl := Except.ok.inj marked
  exact List.mem_singleton_self marker

theorem targetOf_keepsNullable {config : Config} {marker : String}
    {known : List (String × String)} {candidate : Candidate} {target : Target}
    (recognised : config.isNullableMarker marker = true)
    (given : targetOf (some marker) known candidate = .ok target) :
    target.KeepsNullable config (·.isNullable) candidate.record.fields.constructors := by
  obtain ⟨constructors, read, given⟩ := bind_eq_ok_iff.mp given
  obtain rfl := Except.ok.inj given
  apply Target.keepsNullable_of_marked recognised
  rw [mapError_eq_ok_iff] at read
  change List.Forall₂ _ _ constructors
  cases shape : candidate.record.fields with
  | named fields =>
      rw [shape] at read
      obtain ⟨parameters, own, read⟩ := bind_eq_ok_iff.mp read
      obtain rfl := Except.ok.inj read
      refine .cons ((mapM_eq_ok_iff.mp own).imp ?_) .nil
      exact fun _ _ given => parameterOf_marked given
  | positional =>
      rw [shape] at read
      obtain rfl := Except.ok.inj read
      exact .nil
  | unit =>
      rw [shape] at read
      obtain rfl := Except.ok.inj read
      exact .cons .nil .nil

end Source

/-! ### Both providers -/

/-- When the marker that providers use is written without an at sign, it is recognised, and under
the same configuration everything that a manifest or a source declares nullable gives a nullable
field. -/
theorem nullable_declarations_give_nullable_fields {config : Config} {marker : String}
    (chosen : config.nullableMarker? = some marker) (bare : marker.toList.head? ≠ some '@') :
    config.isNullableMarker marker = true ∧
      (∀ (manifest : Manifest) (package : Option String) (model : Model),
        manifest.config = config → manifest.toModel package = .ok model →
          List.Forall₂
            (fun entry target => target.KeepsNullable config (·.nullable) entry.constructors)
            manifest.classes model.targets) ∧
      ∀ (package : Option String) (items : List Source.Item) (targets : List Target)
        (registrations : List Registration),
        Source.scanItems package config.nullableMarker? items = .ok (targets, registrations) →
          ∃ findings, Source.Item.findingsOf package items = .ok findings ∧
            List.Forall₂
              (fun candidate target =>
                target.KeepsNullable config (·.isNullable) candidate.record.fields.constructors)
              (findings.filterMap (·.candidate?)) targets := by
  have recognised := Config.isNullableMarker_of_bare chosen bare
  refine ⟨recognised, ?_, ?_⟩
  · rintro manifest package model rfl translated
    obtain ⟨targets, given, translated⟩ := bind_eq_ok_iff.mp translated
    obtain rfl := Except.ok.inj translated
    rw [chosen] at given
    exact (mapM_eq_ok_iff.mp given).imp fun _ _ => Manifest.targetOf_keepsNullable recognised
  · intro package items targets registrations scanned
    obtain ⟨findings, found, given, -⟩ := Source.scanItems_eq_ok_iff.mp scanned
    rw [chosen] at given
    exact ⟨findings, found, given.imp fun _ _ => Source.targetOf_keepsNullable recognised⟩

/-- A name that may be null under the markers of the default settings, declared in a manifest and
in a source. -/
theorem nullable_name_gives_nullable_field :
    let entry : ManifestParameter := { name := "name", type := "String", nullable := true }
    let manifest : Manifest := { classes := [{ name := "a.User", constructors := [[entry]] }] }
    let optional : Source.FieldType := .path [] "Option" [.path [] "String" []]
    let declared : Source.RecordField := ⟨[], "name", optional⟩
    let user : Source.Record :=
      ⟨[⟨false, ["generate_moshi"], .word⟩], true, "User", .named [declared]⟩
    let name : Parameter :=
      { name := "name", type := .string, annotations := ["org.jetbrains.annotations.Nullable"] }
    let target : Target :=
      { qualifiedName := "a.User", package := some "a", constructors := [[name]] }
    manifest.toModel none = .ok ⟨{}, [target], []⟩ ∧
      target.KeepsNullable {} (·.nullable) [[entry]] ∧
      Source.scanItems (some "a") (Config.nullableMarker? {}) [.record user] =
        .ok ([target], []) ∧
      target.KeepsNullable {} (·.isNullable) [[declared]] := by
  intro entry manifest optional declared user name target
  have chosen : Config.nullableMarker? {} = some "org.jetbrains.annotations.Nullable" := rfl
  have translated : manifest.toModel none = .ok ⟨{}, [target], []⟩ := by decide +kernel
  have scanned : Source.scanItems (some "a") (Config.nullableMarker? {}) [.record user] =
      .ok ([target], []) := by decide +kernel
  obtain ⟨-, ofManifest, ofSource⟩ :=
    nullable_declarations_give_nullable_fields chosen (by decide)
  obtain ⟨findings, found, ofSource⟩ := ofSource (some "a") [.record user] [target] [] scanned
  obtain rfl := Except.ok.inj found
  refine ⟨translated, ?_, scanned, ?_⟩
  · exact (List.forall₂_cons.mp (ofManifest manifest none _ rfl translated)).1
  · exact (List.forall₂_cons.mp ofSource).1

/-- A marker that is configured with an at sign is not recognised, and a nullable name gives a
field that is not. -/
theorem marker_with_at_sign_is_not_recognised :
    let config : Config := { nullableAnnotations := ["@Nullable"] }
    let entry : ManifestParameter := { name := "name", type := "String", nullable := true }
    let manifest : Manifest :=
      { config := config, classes := [{ name := "a.User", constructors := [[entry]] }] }
    config.nullableMarker? = some "@Nullable" ∧ config.isNullableMarker "@Nullable" = false ∧
      (manifest.toModel none).map (fun model => model.targets.map (·.fields config)) =
        .ok [.ok [⟨"name", "name", .string, false⟩]] := by
  decide +kernel

end AdapterGen
