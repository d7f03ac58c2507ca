import AdapterGen.Proofs.Emission.Dispatch
import AdapterGen.Proofs.Emission.Imports

/-!
# Clashes with imports

A class that is declared or constructed by its simple name clashes with an import of that name.
With the suffixes of the default configuration only the adapter of a class `Json` does, whose name
is that of the superclass of all adapters. Without a clash every helper name in a file means the
class that it was written for.
-/

namespace AdapterGen

open Code

namespace Emission

/-! ### Simple names in a file -/

/-- The simple names of the imports that are printed in a file. -/
def importedNames (file : SourceFile) : List String := file.printedImports.map Naming.simpleName

/-- The adapters that a file constructs, by the names it gives them. -/
def constructedAdapters (file : SourceFile) : List String :=
  ((file.decl.methods.filter (·.name == "create")).flatMap (·.body.texts)).filterMap
    (between? "return new " "(moshi, this, type, annotations);")

/-- Neither the class of a file nor an adapter that it constructs by a simple name has the simple
name of a printed import. -/
structure ClashFree (file : SourceFile) : Prop where
  declared : file.decl.name ∉ importedNames file
  constructed : ∀ name ∈ constructedAdapters file, name ∉ importedNames file

/-- The classes that a file declares or imports by a simple name. -/
def boundClasses (file : SourceFile) (name : String) : List String :=
  (if file.decl.name = name then [file.qualifiedName] else []) ++
    file.printedImports.filter (Naming.simpleName · = name)

/-- The class that a simple name means in a file: the one that is declared or imported by that name,
else the class of the file's package. A name that is bound twice means nothing. -/
def meaning? (file : SourceFile) (name : String) : Option String :=
  match boundClasses file name with
  | [] => some (Naming.qualify file.package name)
  | [one] => some one
  | _ :: _ :: _ => none

/-- Every helper that the emitter writes means the class that it was written for. -/
def HelpersKeepMeaning (file : SourceFile) (phrases : ClassPhrases) : Prop :=
  ∀ phrase ∈ phrases.heads ++ phrases.bodies, ∀ helper ∈ helperClasses,
    phrase.Writes helper → meaning? file (Naming.simpleName helper) = some helper

/-! ### Names of helpers -/

/-- Helpers differ in their simple names. -/
theorem simpleName_inj_helperClasses : ∀ helper ∈ helperClasses, ∀ other ∈ helperClasses,
    Naming.simpleName helper = Naming.simpleName other → helper = other := by
  decide_cbv

theorem not_dot_prefix_helper : ∀ helper ∈ helperClasses, ¬['.'] <+: helper.toList := by
  decide_cbv

/-- A helper is the class of its simple name in its package. -/
theorem qualify_simpleName_helper {helper package : String} (isHelper : helper ∈ helperClasses)
    (lives : Naming.packageOf? helper = some package) :
    Naming.qualify package (Naming.simpleName helper) = helper := by
  have whole : helper = package ++ "." ++ Naming.simpleName helper :=
    Naming.packageOf?_eq_some lives
  have named : package ≠ "" := by
    rintro rfl
    have chars : helper.toList = ['.'] ++ (Naming.simpleName helper).toList := by
      simpa using congrArg String.toList whole
    exact not_dot_prefix_helper helper isHelper ⟨_, chars.symm⟩
  rw [Naming.qualify, if_neg named, ← whole]

/-- The only helper that is named like an adapter is the superclass of adapters. -/
theorem append_adapter_eq_simpleName {helper : String} (isHelper : helper ∈ helperClasses)
    (simple : String) :
    simple ++ "Adapter" = Naming.simpleName helper ↔
      simple = "Json" ∧ helper = jsonAdapterClass := by
  have ends : ∀ helper ∈ helperClasses, "Adapter".toList <:+ (Naming.simpleName helper).toList →
      helper = jsonAdapterClass := by decide_cbv
  have whole : Naming.simpleName jsonAdapterClass = "Json" ++ "Adapter" := by decide_cbv
  constructor
  · intro same
    obtain rfl := ends helper isHelper ⟨simple.toList, by rw [← same, String.toList_append]⟩
    exact ⟨(String.append_left_inj "Adapter").mp (same.trans whole), rfl⟩
  · rintro ⟨rfl, rfl⟩
    exact whole.symm

/-- No helper is named like a factory. -/
theorem append_adapterFactory_ne_simpleName {helper : String} (isHelper : helper ∈ helperClasses)
    (simple : String) : simple ++ "AdapterFactory" ≠ Naming.simpleName helper := by
  have ends : ∀ helper ∈ helperClasses,
      ¬"AdapterFactory".toList <:+ (Naming.simpleName helper).toList := by decide_cbv
  intro same
  exact ends helper isHelper ⟨simple.toList, by rw [← same, String.toList_append]⟩

/-! ### Files that import helpers only -/

/-- The package of the classes that adapters and factories stand on. -/
def moshiPackage : String := "com.squareup.moshi"

theorem packageOf?_jsonAdapterClass : Naming.packageOf? jsonAdapterClass = some moshiPackage := by
  decide_cbv

/-- A file whose imports are helpers, the superclass of adapters among them. -/
structure ImportsHelpersOnly (file : SourceFile) : Prop where
  helpers : file.decl.imports ⊆ helperClasses
  jsonAdapter : jsonAdapterClass ∈ file.decl.imports

section

variable {file : SourceFile}

theorem ImportsHelpersOnly.importedNames_subset (imports : ImportsHelpersOnly file) :
    importedNames file ⊆ helperClasses.map Naming.simpleName :=
  List.map_subset _ fun _ isPrinted => imports.helpers (mem_printedImports.mp isPrinted).1

theorem ImportsHelpersOnly.adapter_mem_importedNames (imports : ImportsHelpersOnly file)
    (simple : String) :
    simple ++ "Adapter" ∈ importedNames file ↔ simple = "Json" ∧ file.package ≠ moshiPackage := by
  constructor
  · intro found
    obtain ⟨helper, isPrinted, same⟩ := List.mem_map.mp found
    obtain ⟨isImport, other⟩ := mem_printedImports.mp isPrinted
    obtain ⟨isJson, rfl⟩ :=
      (append_adapter_eq_simpleName (imports.helpers isImport) simple).mp same.symm
    exact ⟨isJson, fun lives => other (lives ▸ packageOf?_jsonAdapterClass)⟩
  · rintro ⟨isJson, other⟩
    have isPrinted : jsonAdapterClass ∈ file.printedImports :=
      mem_printedImports.mpr ⟨imports.jsonAdapter, fun lives =>
        other (Option.some.inj (lives.symm.trans packageOf?_jsonAdapterClass))⟩
    have isHelper := imports.helpers imports.jsonAdapter
    exact List.mem_map.mpr ⟨jsonAdapterClass, isPrinted,
      ((append_adapter_eq_simpleName isHelper simple).mpr ⟨isJson, rfl⟩).symm⟩

theorem ImportsHelpersOnly.factory_not_mem_importedNames (imports : ImportsHelpersOnly file)
    (simple : String) : simple ++ "AdapterFactory" ∉ importedNames file := by
  intro found
  obtain ⟨helper, isHelper, same⟩ := List.mem_map.mp (imports.importedNames_subset found)
  exact append_adapterFactory_ne_simpleName isHelper simple same.symm

/-- The one import of a helper's simple name is the helper. -/
theorem ImportsHelpersOnly.filter_printedImports (imports : ImportsHelpersOnly file)
    (ascends : file.printedImports.Pairwise (· < ·)) {helper : String}
    (isHelper : helper ∈ helperClasses) :
    file.printedImports.filter (Naming.simpleName · = Naming.simpleName helper) =
      if helper ∈ file.printedImports then [helper] else [] := by
  have sameName : ∀ name ∈ file.printedImports,
      decide (Naming.simpleName name = Naming.simpleName helper) = decide (name = helper) := by
    intro name isPrinted
    have isImport := (mem_printedImports.mp isPrinted).1
    refine decide_eq_decide.mpr ⟨fun same => ?_, fun same => congrArg Naming.simpleName same⟩
    exact simpleName_inj_helperClasses name (imports.helpers isImport) helper isHelper same
  have nodup : file.printedImports.Nodup := ascends.imp fun below => below.ne
  rw [List.filter_congr sameName, List.filter_eq, nodup.count]
  split <;> rfl

/-- A helper that is imported means nothing where its simple name is declared as well. -/
theorem ImportsHelpersOnly.meaning?_eq_none (imports : ImportsHelpersOnly file)
    (ascends : file.printedImports.Pairwise (· < ·)) {helper : String}
    (isHelper : helper ∈ helperClasses) (isPrinted : helper ∈ file.printedImports)
    (declared : file.decl.name = Naming.simpleName helper) :
    meaning? file (Naming.simpleName helper) = none := by
  have imported := imports.filter_printedImports ascends isHelper
  simp [meaning?, boundClasses, imported, isPrinted, declared]

/-- Without a clash, what the emitter writes keeps its meaning. -/
theorem ImportsHelpersOnly.helpersKeepMeaning (imports : ImportsHelpersOnly file)
    {phrases : ClassPhrases} {debugLogs : Bool} (finds : FindsHelpers file phrases debugLogs)
    (free : ClashFree file) : HelpersKeepMeaning file phrases := by
  intro phrase isCode helper isHelper writes
  have imported := imports.filter_printedImports finds.ascends isHelper
  rcases finds.found phrase isCode helper isHelper writes with isPrinted | lives
  · have undeclared : file.decl.name ≠ Naming.simpleName helper := fun same =>
      free.declared (same ▸ List.mem_map_of_mem isPrinted)
    simp [meaning?, boundClasses, imported, isPrinted, undeclared]
  · have notPrinted : helper ∉ file.printedImports := fun isPrinted =>
      (mem_printedImports.mp isPrinted).2 lives
    have isClass := qualify_simpleName_helper isHelper lives
    -- The class of the file may itself be the helper.
    by_cases declared : file.decl.name = Naming.simpleName helper
    · simp [meaning?, boundClasses, imported, notPrinted, declared, SourceFile.qualifiedName,
        isClass]
    · simp [meaning?, boundClasses, imported, notPrinted, declared, isClass]

end

/-! ### Adapters -/

theorem importsHelpersOnly_adapterClass (config : Config) (target : Target) (package : String)
    (plan : DecodePlan) :
    ImportsHelpersOnly ⟨package, adapterClass config target package plan⟩ := by
  have helpers (usesTypes debugLogs : Bool) :
      adapterImports usesTypes debugLogs ⊆ helperClasses := by
    cases usesTypes <;> cases debugLogs <;> decide_cbv
  constructor
  · exact fun name found => helpers _ _ (Text.mem_ascending.mp found)
  · exact Text.mem_ascending.mpr
      (List.mem_append_left _ (List.mem_append_left _ List.mem_cons_self))

/-- An adapter with the default suffix clashes when its target is named `Json`. -/
theorem clashFree_adapterClass_iff {config : Config} (suffix : config.adapterSuffix = "Adapter")
    (target : Target) (package : String) (plan : DecodePlan) :
    ClashFree ⟨package, adapterClass config target package plan⟩ ↔
      ¬(target.simpleName = "Json" ∧ package ≠ moshiPackage) := by
  have name : (adapterClass config target package plan).name = target.simpleName ++ "Adapter" := by
    rw [← suffix]
    rfl
  have none : constructedAdapters ⟨package, adapterClass config target package plan⟩ = [] := rfl
  have declared := (importsHelpersOnly_adapterClass config target package
    plan).adapter_mem_importedNames target.simpleName
  constructor
  · intro free isJson
    exact free.declared (name ▸ declared.mpr isJson)
  · intro notJson
    exact ⟨fun found => notJson (declared.mp (name ▸ found)), by simp [none]⟩

/-! ### Factories -/

theorem importsHelpersOnly_factoryClass (config : Config) (name package : String)
    (adapters : List AdapterRef) :
    ImportsHelpersOnly ⟨package, factoryClass config name package adapters⟩ := by
  have helpers : [jsonAdapterClass, moshiClass, annotationClass, reflectTypeClass, setClass] ⊆
      helperClasses := by decide_cbv
  constructor
  · exact fun helper found => helpers (Text.mem_ascending.mp found)
  · exact Text.mem_ascending.mpr List.mem_cons_self

/-- A factory constructs the adapters of its entries. -/
theorem constructedAdapters_factoryClass (config : Config) (name package : String)
    (adapters : List AdapterRef) :
    constructedAdapters ⟨package, factoryClass config name package adapters⟩ =
      adapters.map (localReference package ·.adapter) := by
  have lines : constructedAdapters ⟨package, factoryClass config name package adapters⟩ =
      (textsOf (createSteps package adapters)).filterMap
        (between? "return new " "(moshi, this, type, annotations);") := by
    rw [← Block.texts_ofSteps]
    simp [constructedAdapters, factoryClass, createMethod]
  rw [lines]
  clear lines
  induction adapters with
  | nil => rfl
  | cons ref rest ih =>
      have test : between? "return new " "(moshi, this, type, annotations);"
          ("if (type == " ++ ref.target ++ ".class) \x7b") = none := by
        have first : "if (type == ".toList.head? = some 'i' := by decide_cbv
        refine between?_eq_none (by simp) ?_
        rw [String.append_assoc, String.toList_append, List.head?_append, first, Option.some_or]
        decide_cbv
      have closing : between? "return new " "(moshi, this, type, annotations);" "\x7d" = none := by
        decide_cbv
      rw [textsOf_createSteps_cons, textsOf_dispatchSteps, List.filterMap_append, ih]
      simp [test, closing, between?_append]

/-- How the code of a package refers to a class: by its simple name if the class lives there, and
also if it lives in no package. -/
theorem localReference_qualify {simple : String} (noDot : '.' ∉ simple.toList)
    (package home : String) :
    localReference package (Naming.qualify home simple) =
      if home = package ∨ home = "" then simple else Naming.qualify home simple := by
  unfold localReference Naming.qualify
  by_cases isDefault : home = ""
  · simp [isDefault, Naming.packageOf?_eq_none_iff.mpr noDot]
  · simp [isDefault, Naming.packageOf?_append noDot, Naming.simpleName_append noDot]

/-- A class that is referred to clashes when its adapter is written by a simple name that is
imported. -/
theorem localReference_mem_importedNames {file : SourceFile} (imports : ImportsHelpersOnly file)
    {simple : String} (noDot : '.' ∉ simple.toList) (home : String) :
    localReference file.package (Naming.qualify home (simple ++ "Adapter")) ∈ importedNames file ↔
      simple = "Json" ∧ (home = file.package ∨ home = "") ∧ file.package ≠ moshiPackage := by
  have noDotAdapter : '.' ∉ (simple ++ "Adapter").toList := by
    simp [noDot]
  rw [localReference_qualify noDotAdapter]
  split
  · rename_i lives
    rw [imports.adapter_mem_importedNames]
    tauto
  · rename_i elsewhere
    refine iff_of_false (fun found => ?_) fun clash => elsewhere clash.2.1
    obtain ⟨helper, -, same⟩ := List.mem_map.mp found
    have dotted : '.' ∈ (Naming.simpleName helper).toList := by
      rw [same, Naming.qualify, if_neg (not_or.mp elsewhere).2]
      simp
    exact Naming.not_mem_simpleName helper dotted

/-- A factory clashes by its own name, or by the simple name of an adapter. -/
theorem clashFree_factoryClass_iff (config : Config) (name package : String)
    (adapters : List AdapterRef) :
    ClashFree ⟨package, factoryClass config name package adapters⟩ ↔
      name ∉ importedNames ⟨package, factoryClass config name package adapters⟩ ∧
      ∀ ref ∈ adapters, localReference package ref.adapter ∉
        importedNames ⟨package, factoryClass config name package adapters⟩ := by
  constructor
  · intro free
    refine ⟨free.declared, fun ref isRef => free.constructed _ ?_⟩
    rw [constructedAdapters_factoryClass]
    exact List.mem_map_of_mem isRef
  · rintro ⟨declared, apart⟩
    refine ⟨declared, fun reference found => ?_⟩
    rw [constructedAdapters_factoryClass] at found
    obtain ⟨ref, isRef, rfl⟩ := List.mem_map.mp found
    exact apart ref isRef

/-- The factory of a target with the default suffixes clashes when the target is named `Json`. -/
theorem clashFree_ownFactory_iff {config : Config}
    (adapterSuffix : config.adapterSuffix = "Adapter")
    (factorySuffix : config.factorySuffix = "AdapterFactory") (target : Target)
    (package : String) :
    ClashFree ⟨package, factoryClass config (factoryName config target.simpleName) package
      [ownRef config target package]⟩ ↔
        ¬(target.simpleName = "Json" ∧ package ≠ moshiPackage) := by
  have imports := importsHelpersOnly_factoryClass config (factoryName config target.simpleName)
    package [ownRef config target package]
  have declared := imports.factory_not_mem_importedNames target.simpleName
  have adapter : (ownRef config target package).adapter =
      Naming.qualify package (target.simpleName ++ "Adapter") := by
    rw [← adapterSuffix]
    rfl
  have name : factoryName config target.simpleName = target.simpleName ++ "AdapterFactory" := by
    rw [← factorySuffix]
    rfl
  have reference := localReference_mem_importedNames imports
    (Naming.not_mem_simpleName target.qualifiedName) package
  rw [clashFree_factoryClass_iff, List.forall_mem_singleton, adapter]
  rw [name] at declared reference ⊢
  refine ⟨fun ⟨_, apart⟩ clash => apart (reference.mpr ⟨clash.1, .inl rfl, clash.2⟩),
    fun apart => ⟨declared, fun found => ?_⟩⟩
  obtain ⟨isJson, -, elsewhere⟩ := reference.mp found
  exact apart ⟨isJson, elsewhere⟩

/-- The package in which a registered type's adapter is looked for. -/
def registeredHome (known : List Target) (type : String) : String :=
  ((known.find? (·.qualifiedName == type)).bind (·.package) <|> Naming.packageOf? type).getD ""

/-- A registered class whose adapter clashes in a factory of a package. -/
def RegisteredClash (known : List Target) (package type : String) : Prop :=
  Naming.simpleName type = "Json" ∧
    (registeredHome known type = package ∨ registeredHome known type = "") ∧
    package ≠ moshiPackage

theorem registeredClash_iff {config : Config} (suffix : config.adapterSuffix = "Adapter")
    (known : List Target) {file : SourceFile} (imports : ImportsHelpersOnly file) (type : String) :
    localReference file.package (registeredAdapter config known type) ∈ importedNames file ↔
      RegisteredClash known file.package type := by
  have adapter : registeredAdapter config known type =
      Naming.qualify (registeredHome known type) (Naming.simpleName type ++ "Adapter") := by
    rw [← suffix]
    rfl
  rw [adapter, localReference_mem_importedNames imports (Naming.not_mem_simpleName type)]
  rfl

/-- A target beside the factory that registers it clashes there by its name alone. -/
theorem registeredClash_of_known {known : List Target} {target : Target} {package : String}
    (isKnown : known.find? (·.qualifiedName == target.qualifiedName) = some target)
    (inPackage : target.package = some package) :
    RegisteredClash known package target.qualifiedName ↔
      target.simpleName = "Json" ∧ package ≠ moshiPackage := by
  have home : registeredHome known target.qualifiedName = package := by
    rw [registeredHome, isKnown, Option.bind_some, inPackage]
    rfl
  unfold RegisteredClash
  rw [home]
  exact ⟨fun clash => ⟨clash.1, clash.2.2⟩, fun clash => ⟨clash.1, .inl rfl, clash.2⟩⟩

/-! ### Emitted units -/

/-- With the default suffixes, what is emitted for a class clashes exactly when the class is named
`Json` and does not live beside the superclass of adapters. A factory of registered classes clashes
when it is named like one of its imports, or when such a class is among those registered and its
adapter is written by its simple name. Without a clash every helper keeps its meaning. -/
theorem clash_iff_named_json (config : Config) (adapterSuffix : config.adapterSuffix = "Adapter")
    (factorySuffix : config.factorySuffix = "AdapterFactory") :
    (∀ (target : Target) (package : String) (emitted : EmittedTarget),
      target.package = some package → emitTarget config target = .ok emitted →
        ∀ unit ∈ emitted.units,
          (ClashFree unit.file ↔ ¬(target.simpleName = "Json" ∧ package ≠ moshiPackage)) ∧
          (ClashFree unit.file → HelpersKeepMeaning unit.file
            (unitPhrases config target package emitted.plan unit.kind))) ∧
    (∀ (known : List Target) (registration : Registration) (package : String),
      registration.resolvedPackage? = some package →
        ∃ unit, emitRegistration config known registration = .ok unit ∧
          (ClashFree unit.file ↔
            registration.targetClassName ∉ importedNames unit.file ∧
            ∀ type ∈ registration.types, ¬RegisteredClash known package type) ∧
          (ClashFree unit.file → HelpersKeepMeaning unit.file
            (factoryPhrases package (registeredRefs config known registration)))) ∧
    (∀ (known : List Target) (target : Target) (package : String),
      known.find? (·.qualifiedName == target.qualifiedName) = some target →
        target.package = some package →
          (RegisteredClash known package target.qualifiedName ↔
            target.simpleName = "Json" ∧ package ≠ moshiPackage)) := by
  refine ⟨fun target package emitted inPackage accepted unit isUnit => ?_,
    fun known registration package resolved => ?_,
    fun known target package isKnown inPackage => registeredClash_of_known isKnown inPackage⟩
  · rcases eq_of_mem_units inPackage accepted isUnit with rfl | rfl
    · exact ⟨clashFree_adapterClass_iff adapterSuffix target package emitted.plan,
        (importsHelpersOnly_adapterClass config target package emitted.plan).helpersKeepMeaning
          (findsHelpers_adapterClass config target package emitted.plan)⟩
    · exact ⟨clashFree_ownFactory_iff adapterSuffix factorySuffix target package,
        (importsHelpersOnly_factoryClass config _ package _).helpersKeepMeaning
          (findsHelpers_factoryClass config _ package _)⟩
  · have imports := importsHelpersOnly_factoryClass config registration.targetClassName package
      (registeredRefs config known registration)
    refine ⟨⟨.aggregateFactory, package, factoryClass config registration.targetClassName package
      (registeredRefs config known registration)⟩, ?_, ?_,
      imports.helpersKeepMeaning (findsHelpers_factoryClass config _ package _)⟩
    · simp only [emitRegistration, resolved, registeredRefs]
    · have apart (type : String) := not_congr (registeredClash_iff adapterSuffix known imports type)
      rw [clashFree_factoryClass_iff, registeredRefs, List.forall_mem_map]
      exact and_congr_right fun _ => forall₂_congr fun type _ => apart type

theorem tagged_target_does_not_clash :
    ∃ emitted, emitTarget {} taggedTarget = .ok emitted ∧
      (∀ unit ∈ emitted.units, ClashFree unit.file ∧
        HelpersKeepMeaning unit.file (unitPhrases {} taggedTarget "a" emitted.plan unit.kind)) ∧
      ∃ unit, emitRegistration {} [taggedTarget] taggedRegistration = .ok unit ∧
        ClashFree unit.file ∧
        HelpersKeepMeaning unit.file
          (factoryPhrases "a" (registeredRefs {} [taggedTarget] taggedRegistration)) := by
  obtain ⟨ofTargets, ofRegistrations, ofKnown⟩ := clash_iff_named_json {} rfl rfl
  have notJson : taggedTarget.simpleName ≠ "Json" := by decide_cbv
  refine ⟨_, rfl, fun unit isUnit => ?_, ?_⟩
  · obtain ⟨clash, keeps⟩ := ofTargets taggedTarget "a" _ rfl rfl unit isUnit
    have free := clash.mpr fun clash => notJson clash.1
    exact ⟨free, keeps free⟩
  · obtain ⟨unit, emitted, clash, keeps⟩ :=
      ofRegistrations [taggedTarget] taggedRegistration "a" rfl
    have apart := mt (ofKnown [taggedTarget] taggedTarget "a" rfl rfl).mp fun clash =>
      notJson clash.1
    have named : taggedRegistration.targetClassName ∉ importedNames unit.file := by
      obtain rfl := Except.ok.inj emitted
      intro found
      have isHelper := (importsHelpersOnly_factoryClass _ _ _ _).importedNames_subset found
      revert isHelper
      decide_cbv
    have free := clash.mpr ⟨named, List.forall_mem_singleton.mpr apart⟩
    exact ⟨unit, emitted, free, keeps free⟩

/-- A target whose adapter is named like the superclass of adapters. -/
def jsonTarget : Target where
  qualifiedName := "a.Json"
  package := some "a"
  constructors := [[{ name := "x", type := .primitive .int }]]

/-- The adapter of a class `Json` declares the name that it imports, and extends it. -/
theorem json_target_clashes :
    ∃ emitted, emitTarget {} jsonTarget = .ok emitted ∧
      ∃ unit ∈ emitted.units, ¬ClashFree unit.file ∧ meaning? unit.file "JsonAdapter" = none ∧
        ¬HelpersKeepMeaning unit.file (unitPhrases {} jsonTarget "a" emitted.plan unit.kind) := by
  obtain ⟨emitted, accepted⟩ : ∃ emitted, emitTarget {} jsonTarget = .ok emitted := ⟨_, rfl⟩
  have isUnit : ⟨.adapter, "a", adapterClass {} jsonTarget "a" emitted.plan⟩ ∈ emitted.units := by
    obtain ⟨package, fields, -, isHome, -, -, units⟩ := emitTarget_eq_ok_iff.mp accepted
    obtain rfl : "a" = package := Option.some.inj isHome
    obtain ⟨others, isCons⟩ := unitsOf_eq_cons {} jsonTarget "a" emitted.plan
    rw [← units, isCons]
    exact List.mem_cons_self
  have isJson : jsonTarget.simpleName = "Json" := by decide_cbv
  have declared : adapterName {} jsonTarget.simpleName = Naming.simpleName jsonAdapterClass := by
    decide_cbv
  have elsewhere : Naming.packageOf? jsonAdapterClass ≠ some "a" := by
    rw [packageOf?_jsonAdapterClass]
    decide
  have helperName : Naming.simpleName jsonAdapterClass = "JsonAdapter" := by decide_cbv
  have imports := importsHelpersOnly_adapterClass {} jsonTarget "a" emitted.plan
  have finds := findsHelpers_adapterClass {} jsonTarget "a" emitted.plan
  have nothing := imports.meaning?_eq_none finds.ascends List.mem_cons_self
    (mem_printedImports.mpr ⟨imports.jsonAdapter, elsewhere⟩) declared
  refine ⟨emitted, accepted, _, isUnit, fun free => ?_, helperName ▸ nothing, fun keeps => ?_⟩
  · exact (clashFree_adapterClass_iff rfl jsonTarget "a" _).mp free ⟨isJson, by decide⟩
  · have means := keeps [.own "JsonAdapter<", .given "a.Json", .own ">"] List.mem_cons_self
      jsonAdapterClass List.mem_cons_self ⟨"JsonAdapter<", List.mem_cons_self, by decide_cbv⟩
    exact absurd (means.symm.trans nothing) (Option.some_ne_none _)

end Emission

end AdapterGen
