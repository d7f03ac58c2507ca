import AdapterGen.Manifest
import AdapterGen.Proofs.Naming
import AdapterGen.Proofs.Outcome

/-!
# Translation of manifests

A manifest gives a model exactly when each of its parameters translates on its own. Otherwise the
first that does not is reported, in the order in which classes, constructors and parameters stand.

## Implementation notes

The translation stops at the first failure of three lists inside each other. Its error is that of
the flat list of parameters, each with the class it stands in, so that the order of the report is
the order of this list.
-/

namespace AdapterGen.Manifest

/-! ### Parameters -/

/-- A parameter translates when its type is one, and there is a marker for it if it is nullable. -/
structure Translates (config : Config) (p : ManifestParameter) : Prop where
  parses : ∃ type, TypeDescriptor.parse p.type = .ok type
  marked : p.nullable = true → config.nullableAnnotations ≠ []

/-- Why a parameter does not translate. The type is read first. -/
inductive Offends (config : Config) (p : ManifestParameter) : ParameterError → Prop
  | type {error : TypeDescriptor.SyntaxError}
      (unparsed : TypeDescriptor.parse p.type = .error error) : Offends config p (.type p.type error)
  | noMarker {type : TypeDescriptor} (parsed : TypeDescriptor.parse p.type = .ok type)
      (isNullable : p.nullable = true) (unmarked : config.nullableAnnotations = []) :
      Offends config p .noMarker

/-- The parameter that an entry of a manifest describes. -/
structure DescribesParameter (config : Config) (p : ManifestParameter) (parameter : Parameter) :
    Prop where
  name : parameter.name = Text.trim p.name
  type : TypeDescriptor.parse p.type = .ok parameter.type
  unmarked : p.nullable = false → parameter.annotations = p.annotations
  marked : p.nullable = true → ∃ marker, config.nullableAnnotations.head? = some marker ∧
    parameter.annotations = p.annotations ++ [marker]
  jsonName : parameter.jsonName = p.json

variable {config : Config} {p : ManifestParameter}

theorem parameterOf_eq_error_iff {cause : ParameterError} :
    parameterOf config.nullableMarker? p = .error cause ↔ Offends config p cause := by
  unfold parameterOf Config.nullableMarker?
  constructor
  · intro failed
    split at failed
    · rename_i unparsed
      exact Except.error.inj failed ▸ .type unparsed
    · rename_i parsed
      split at failed
      · rename_i isNullable
        split at failed
        · rename_i unmarked
          exact Except.error.inj failed ▸
            .noMarker parsed isNullable (List.head?_eq_none_iff.mp unmarked)
        · cases failed
      · cases failed
  · rintro (unparsed | ⟨parsed, isNullable, unmarked⟩)
    · simp only [unparsed]
    · simp only [parsed, isNullable, unmarked, List.head?_nil, if_true]

theorem describes_of_parameterOf {parameter : Parameter}
    (given : parameterOf config.nullableMarker? p = .ok parameter) :
    DescribesParameter config p parameter := by
  unfold parameterOf Config.nullableMarker? at given
  split at given
  · cases given
  · rename_i parsed
    split at given
    · rename_i isNullable
      split at given
      · cases given
      · rename_i marker chosen
        obtain rfl := Except.ok.inj given
        refine ⟨rfl, parsed, fun required => ?_, fun _ => ⟨marker, chosen, rfl⟩, rfl⟩
        exact absurd (required.symm.trans isNullable) Bool.false_ne_true
    · rename_i required
      obtain rfl := Except.ok.inj given
      exact ⟨rfl, parsed, fun _ => rfl, fun isNullable => absurd isNullable required, rfl⟩

theorem translates_iff : Translates config p ↔ ∀ cause, ¬ Offends config p cause := by
  constructor
  · rintro ⟨⟨type, parsed⟩, marked⟩ cause (unparsed | ⟨-, isNullable, unmarked⟩)
    · exact nomatch parsed.symm.trans unparsed
    · exact marked isNullable unmarked
  · intro sound
    have parses : ∃ type, TypeDescriptor.parse p.type = .ok type := by
      cases read : TypeDescriptor.parse p.type with
      | ok type => exact ⟨type, rfl⟩
      | error error => exact absurd (.type read) (sound _)
    obtain ⟨type, parsed⟩ := parses
    exact ⟨⟨type, parsed⟩, fun isNullable unmarked =>
      sound _ (.noMarker parsed isNullable unmarked)⟩

theorem parameterIn_eq_ok_iff {marker : Option String} {className : String}
    {parameter : Parameter} :
    parameterIn marker className p = .ok parameter ↔ parameterOf marker p = .ok parameter := by
  unfold parameterIn
  split <;> rename_i given <;> simp [given]

theorem parameterIn_eq_error_iff {className : String} {error : ModelError} :
    parameterIn config.nullableMarker? className p = .error error ↔
      ∃ cause, Offends config p cause ∧ error = ⟨p.name, className, cause⟩ := by
  simp only [← parameterOf_eq_error_iff]
  unfold parameterIn
  split <;> rename_i given <;> simp [given, eq_comm]

theorem errorOf?_parameterIn_eq_none_iff {className : String} :
    errorOf? (parameterIn config.nullableMarker? className p) = none ↔ Translates config p := by
  rw [translates_iff]
  constructor
  · intro passed cause offends
    have failed : parameterIn config.nullableMarker? className p =
        .error ⟨p.name, className, cause⟩ := parameterIn_eq_error_iff.mpr ⟨cause, offends, rfl⟩
    simp [failed] at passed
  · intro sound
    cases given : parameterIn config.nullableMarker? className p with
    | ok parameter => rfl
    | error error =>
        obtain ⟨cause, offends, -⟩ := parameterIn_eq_error_iff.mp given
        exact absurd offends (sound cause)

/-! ### Classes and factories -/

/-- The target that a class of a manifest describes. Its package is the one that it states, else
what stands before the last dot of its name, else the default. -/
structure DescribesClass (config : Config) (defaultPackage : Option String) (entry : ManifestClass)
    (target : Target) : Prop where
  constructors : List.Forall₂ (List.Forall₂ (DescribesParameter config)) entry.constructors
    target.constructors
  stated : ∀ package, entry.package = some package → target.package = some package
  ofName : entry.package = none → ∀ package simple,
    Text.trim entry.name = package ++ "." ++ simple → '.' ∉ simple.toList →
      target.package = some package
  fallback : entry.package = none → '.' ∉ (Text.trim entry.name).toList →
    target.package = defaultPackage
  dotted : '.' ∈ (Text.trim entry.name).toList → target.qualifiedName = Text.trim entry.name
  unplaced : target.package = none → target.qualifiedName = Text.trim entry.name
  joined : ∀ package, '.' ∉ (Text.trim entry.name).toList → target.package = some package →
    target.qualifiedName = Naming.qualify package (Text.trim entry.name)
  visibility : target.visibility = ⟨entry.isPublic, entry.isAbstract⟩
  flags : target.flags = entry.flags

/-- The registration that a factory of a manifest describes. -/
structure DescribesFactory (defaultPackage : Option String) (entry : ManifestFactory)
    (registration : Registration) : Prop where
  stated : ∀ package, entry.package = some package → registration.declaredIn = some package
  fallback : entry.package = none → registration.declaredIn = defaultPackage
  targetClassName : registration.targetClassName = entry.targetClassName
  targetPackage : registration.targetPackage = entry.targetPackage
  types : registration.types = entry.types

theorem describes_of_targetOf {defaultPackage : Option String} {entry : ManifestClass}
    {target : Target} (given : targetOf defaultPackage config.nullableMarker? entry = .ok target) :
    DescribesClass config defaultPackage entry target := by
  obtain ⟨constructors, read, given⟩ := bind_eq_ok_iff.mp given
  obtain rfl := Except.ok.inj given
  have parameters : List.Forall₂ (List.Forall₂ (DescribesParameter config)) entry.constructors
      constructors := by
    refine (mapM_eq_ok_iff.mp read).imp fun _ _ own => (mapM_eq_ok_iff.mp own).imp ?_
    exact fun _ _ given => describes_of_parameterOf (parameterIn_eq_ok_iff.mp given)
  exact {
    constructors := parameters
    stated := fun package isStated => by simp [packageOf?, isStated]
    ofName := fun notStated package simple split noDot => by
      have front : Naming.packageOf? (Text.trim entry.name) = some package := by
        rw [split, Naming.packageOf?_append noDot]
      simp [packageOf?, notStated, front]
    fallback := fun notStated noDot => by
      simp [packageOf?, notStated, Naming.packageOf?_eq_none_iff.mpr noDot]
    dotted := fun dotted => by simp [qualifiedName, dotted]
    unplaced := fun noPackage => by
      simp only at noPackage
      simp [qualifiedName, noPackage, Naming.qualify?]
    joined := fun package noDot isPackage => by
      simp only at isPackage
      simp [qualifiedName, noDot, isPackage, Naming.qualify?]
    visibility := rfl
    flags := rfl }

theorem describes_registrationOf (defaultPackage : Option String) (entry : ManifestFactory) :
    DescribesFactory defaultPackage entry (registrationOf defaultPackage entry) where
  stated := fun package isStated => by simp [registrationOf, isStated]
  fallback := fun notStated => by simp [registrationOf, notStated]
  targetClassName := rfl
  targetPackage := rfl
  types := rfl

/-! ### Manifests -/

/-- The parameters of a manifest in the order in which they stand, each with its class. -/
def declaredParameters (manifest : Manifest) : List (ManifestClass × ManifestParameter) :=
  manifest.classes.flatMap fun entry => entry.constructors.flatten.map (entry, ·)

/-- The first parameter of a manifest that does not translate, and why. -/
structure FirstOffender (manifest : Manifest) (entry : ManifestClass) (p : ManifestParameter)
    (cause : ParameterError) : Prop where
  first : ∃ before after, manifest.declaredParameters = before ++ (entry, p) :: after ∧
    ∀ earlier ∈ before, Translates manifest.config earlier.2
  offends : Offends manifest.config p cause

/-- The model that a manifest describes. -/
structure DescribesModel (manifest : Manifest) (defaultPackage : Option String) (model : Model) :
    Prop where
  config : model.config = manifest.config
  targets : List.Forall₂ (DescribesClass manifest.config defaultPackage) manifest.classes
    model.targets
  registrations : List.Forall₂ (DescribesFactory defaultPackage) manifest.factories
    model.registrations

variable {manifest : Manifest} {defaultPackage : Option String}

theorem errorOf?_targetOf (defaultPackage marker : Option String) (entry : ManifestClass) :
    errorOf? (targetOf defaultPackage marker entry) = entry.constructors.flatten.findSome? fun p =>
      errorOf? (parameterIn marker (Text.trim entry.name) p) := by
  calc errorOf? (targetOf defaultPackage marker entry)
      = errorOf? (entry.constructors.mapM (·.mapM (parameterIn marker (Text.trim entry.name)))) :=
        errorOf?_bind_pure _ _
    _ = entry.constructors.findSome? fun parameters => parameters.findSome? fun p =>
          errorOf? (parameterIn marker (Text.trim entry.name) p) := by
        simp only [errorOf?_mapM]
    _ = _ := by rw [← List.flatMap_id, findSome?_flatMap]; rfl

/-- The error of a translation is that of the parameters one after the other. -/
theorem errorOf?_toModel (manifest : Manifest) (defaultPackage : Option String) :
    errorOf? (manifest.toModel defaultPackage) = manifest.declaredParameters.findSome? fun stands =>
      errorOf?
        (parameterIn manifest.config.nullableMarker? (Text.trim stands.1.name) stands.2) := by
  calc errorOf? (manifest.toModel defaultPackage)
      = errorOf? (manifest.classes.mapM
          (targetOf defaultPackage manifest.config.nullableMarker?)) := errorOf?_bind_pure _ _
    _ = _ := by
        simp only [errorOf?_mapM, errorOf?_targetOf, declaredParameters, findSome?_flatMap,
          List.findSome?_map, Function.comp_def]

theorem toModel_eq_error_iff {error : ModelError} :
    manifest.toModel defaultPackage = .error error ↔ ∃ entry p cause,
      manifest.FirstOffender entry p cause ∧ error = ⟨p.name, Text.trim entry.name, cause⟩ := by
  rw [← errorOf?_eq_some_iff, errorOf?_toModel, List.findSome?_eq_some_iff]
  constructor
  · rintro ⟨before, ⟨entry, p⟩, after, stands, failed, passed⟩
    obtain ⟨cause, offends, rfl⟩ := parameterIn_eq_error_iff.mp (errorOf?_eq_some_iff.mp failed)
    refine ⟨entry, p, cause, ⟨⟨before, after, stands, fun earlier isEarlier => ?_⟩, offends⟩, rfl⟩
    exact errorOf?_parameterIn_eq_none_iff.mp (passed earlier isEarlier)
  · rintro ⟨entry, p, cause, ⟨⟨before, after, stands, passed⟩, offends⟩, rfl⟩
    refine ⟨before, (entry, p), after, stands, ?_, fun earlier isEarlier => ?_⟩
    · exact errorOf?_eq_some_iff.mpr (parameterIn_eq_error_iff.mpr ⟨cause, offends, rfl⟩)
    · exact errorOf?_parameterIn_eq_none_iff.mpr (passed earlier isEarlier)

theorem mem_declaredParameters {stands : ManifestClass × ManifestParameter} :
    stands ∈ manifest.declaredParameters ↔ stands.1 ∈ manifest.classes ∧
      ∃ parameters ∈ stands.1.constructors, stands.2 ∈ parameters := by
  obtain ⟨entry, p⟩ := stands
  simp only [declaredParameters, List.mem_flatMap, List.mem_map, List.mem_flatten, Prod.mk.injEq]
  constructor
  · rintro ⟨_, isClass, _, isParameter, rfl, rfl⟩
    exact ⟨isClass, isParameter⟩
  · rintro ⟨isClass, isParameter⟩
    exact ⟨entry, isClass, p, isParameter, rfl, rfl⟩

theorem exists_toModel_eq_ok_iff :
    (∃ model, manifest.toModel defaultPackage = .ok model) ↔
      ∀ entry ∈ manifest.classes, ∀ parameters ∈ entry.constructors, ∀ p ∈ parameters,
        Translates manifest.config p := by
  rw [← errorOf?_eq_none_iff, errorOf?_toModel, List.findSome?_eq_none_iff]
  simp only [errorOf?_parameterIn_eq_none_iff]
  constructor
  · intro each entry isClass parameters isConstructor p isParameter
    exact each (entry, p)
      (mem_declaredParameters.mpr ⟨isClass, parameters, isConstructor, isParameter⟩)
  · intro each stands isDeclared
    obtain ⟨isClass, parameters, isConstructor, isParameter⟩ := mem_declaredParameters.mp isDeclared
    exact each stands.1 isClass parameters isConstructor stands.2 isParameter

/-- In a valid manifest there is a marker for what is nullable. -/
theorem marked_of_validate (valid : manifest.validate = .ok ())
    {stands : ManifestClass × ManifestParameter} (declared : stands ∈ manifest.declaredParameters)
    (isNullable : stands.2.nullable = true) : manifest.config.nullableAnnotations ≠ [] := by
  obtain ⟨isClass, isParameter⟩ := mem_declaredParameters.mp declared
  obtain ⟨_, classes, -⟩ := bind_eq_ok_iff.mp valid
  have checked := forM_eq_ok_iff.mp classes stands.1 isClass
  unfold checkClass at checked
  split at checked
  · cases checked
  · have own := forM_eq_ok_iff.mp checked stands.2 (List.mem_flatten.mpr isParameter)
    intro unmarked
    simp only [checkParameter, isNullable, unmarked, List.isEmpty_nil, Bool.and_self,
      if_true] at own
    split at own
    · cases own
    · split at own <;> cases own

theorem describes_of_toModel {model : Model} (given : manifest.toModel defaultPackage = .ok model) :
    manifest.DescribesModel defaultPackage model := by
  obtain ⟨targets, read, given⟩ := bind_eq_ok_iff.mp given
  obtain rfl := Except.ok.inj given
  refine ⟨rfl, (mapM_eq_ok_iff.mp read).imp fun _ _ => describes_of_targetOf, ?_⟩
  rw [List.forall₂_map_right_iff, List.forall₂_same]
  exact fun entry _ => describes_registrationOf defaultPackage entry

/-- A manifest translates exactly when each of its parameters does, and gives the model that it
describes. Otherwise the error is about the first parameter that does not translate, and its text
names the parameter and the class. In a valid manifest that parameter has a type that is none. -/
theorem toModel_translates_or_blames_first (manifest : Manifest) (defaultPackage : Option String) :
    ((∃ model, manifest.toModel defaultPackage = .ok model) ↔
      ∀ entry ∈ manifest.classes, ∀ parameters ∈ entry.constructors, ∀ p ∈ parameters,
        Translates manifest.config p) ∧
    (manifest.validate = .ok () → ∀ error, manifest.toModel defaultPackage = .error error →
      ∃ input cause, TypeDescriptor.parse input = .error cause ∧
        error.cause = .type input cause) ∧
    (∀ error, manifest.toModel defaultPackage = .error error → ∃ entry p,
      manifest.FirstOffender entry p error.cause ∧ error.chain =
        ["Invalid parameter '" ++ p.name ++ "' in class '" ++ Text.trim entry.name ++ "'",
          error.cause.message]) ∧
    (∀ model, manifest.toModel defaultPackage = .ok model →
      manifest.DescribesModel defaultPackage model) := by
  refine ⟨exists_toModel_eq_ok_iff, fun valid error failed => ?_, fun error failed => ?_,
    fun _ => describes_of_toModel⟩
  · obtain ⟨entry, p, cause, ⟨⟨before, after, stands, -⟩, offends⟩, rfl⟩ :=
      toModel_eq_error_iff.mp failed
    cases offends with
    | type unparsed => exact ⟨_, _, unparsed, rfl⟩
    | noMarker _ isNullable unmarked =>
        have declared : (entry, p) ∈ manifest.declaredParameters := by simp [stands]
        exact absurd unmarked (marked_of_validate valid declared isNullable)
  · obtain ⟨entry, p, cause, offender, rfl⟩ := toModel_eq_error_iff.mp failed
    exact ⟨entry, p, offender, rfl⟩

end AdapterGen.Manifest
