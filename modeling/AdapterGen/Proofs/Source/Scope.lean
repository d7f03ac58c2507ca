import AdapterGen.Proofs.Source.FieldTypes
import AdapterGen.Proofs.Source.Packages

/-!
# Names in modules

A name that a type or a registration uses denotes the last marked record of the source that has it.
That is the record which the module at hand declares, unless another of the name and of another
package stands behind it.

## Implementation notes

A source keeps one table of names for all of its modules, so a name denotes the same class in all
of them. The package at hand, which differs from module to module, counts only for names that no
marked record has.
-/

namespace AdapterGen

/-- A part of a Java type. -/
inductive TypeDescriptor.PartOf (part : TypeDescriptor) : TypeDescriptor → Prop
  | itself : PartOf part part
  | argument {name : String} {args : List TypeDescriptor} {arg : TypeDescriptor}
      (isArg : arg ∈ args) (inside : PartOf part arg) : PartOf part (.reference name args)
  | bound {bound : TypeDescriptor} (inside : PartOf part bound) : PartOf part (.wildcard bound)
  | component {component : TypeDescriptor} (inside : PartOf part component) :
      PartOf part (.array component)

/-- A type with a reference in it is its own boxed type. -/
theorem TypeDescriptor.PartOf.toBoxed_eq {name : String} {args : List TypeDescriptor}
    {type : TypeDescriptor} (isPart : (reference name args).PartOf type) : type.toBoxed = type := by
  cases isPart <;> rfl

namespace Source

variable {names : Names}

/-! ### Names in types -/

/-- A name that stands for a type of its own, whatever a source declares. -/
def IsMapped (name : String) : Prop :=
  (primitive? name).isSome ∨
    name ∈ ["String", "Box", "Option", "Vec", "VecDeque", "LinkedList", "HashSet", "BTreeSet",
      "HashMap", "BTreeMap"]

instance (name : String) : Decidable (IsMapped name) := inferInstanceAs (Decidable (_ ∨ _))

theorem pathDescriptor_of_not_isMapped {name : String} (unmapped : ¬IsMapped name)
    (qualifier : List String) (args : List TypeDescriptor) :
    pathDescriptor names qualifier name args =
      .reference (names.pathName qualifier name) (args.map (·.toBoxed)) := by
  unfold pathDescriptor
  split
  case h_11 => rfl
  all_goals exact absurd (.inr (by decide)) unmapped

/-- A reference in an argument of a path is in the type of the path. -/
theorem partOf_pathDescriptor {name target : String} {args types : List TypeDescriptor}
    {arg : TypeDescriptor} (qualifier : List String) (isArg : arg ∈ args)
    (isPart : (TypeDescriptor.reference target types).PartOf arg) :
    (TypeDescriptor.reference target types).PartOf (pathDescriptor names qualifier name args) := by
  have boxed : (TypeDescriptor.reference target types).PartOf arg.toBoxed :=
    isPart.toBoxed_eq.symm ▸ isPart
  unfold pathDescriptor
  split
  case h_1 => nomatch isArg
  case h_2 => exact List.mem_singleton.mp isArg ▸ isPart
  case h_3 => exact List.mem_singleton.mp isArg ▸ boxed
  all_goals exact .argument (List.mem_map_of_mem isArg) boxed

namespace FieldType

/-- A part of a type that counts for its Java type. The arguments of a primitive type do not. -/
inductive PartOf (part : FieldType) : FieldType → Prop
  | itself : PartOf part part
  | argument {qualifier : List String} {name : String} {args : List FieldType} {arg : FieldType}
      (notPrimitive : primitive? name = none) (isArg : arg ∈ args) (inside : PartOf part arg) :
      PartOf part (.path qualifier name args)
  | element {element : FieldType} (inside : PartOf part element) : PartOf part (.array element)
  | parenthesized {inner : FieldType} (inside : PartOf part inner) :
      PartOf part (.parenthesized inner)

theorem resolve_of_mem {args : List FieldType} {arg : FieldType} {types : List TypeDescriptor}
    (resolved : resolveAll names args = .ok types) (isArg : arg ∈ args) :
    ∃ type ∈ types, arg.resolve names = .ok type := by
  induction args generalizing types with
  | nil => nomatch isArg
  | cons first rest ih =>
      rw [resolveAll] at resolved
      obtain ⟨type, own, resolved⟩ := bind_eq_ok_iff.mp resolved
      obtain ⟨others, later, resolved⟩ := bind_eq_ok_iff.mp resolved
      obtain rfl := Except.ok.inj resolved
      rcases List.mem_cons.mp isArg with rfl | isLater
      · exact ⟨type, List.mem_cons_self, own⟩
      · obtain ⟨found, isFound, same⟩ := ih later isLater
        exact ⟨found, List.mem_cons_of_mem type isFound, same⟩

/-- Where a part of a type has a reference for its Java type, the Java type of the whole has the
reference in it. -/
theorem PartOf.resolve {part type : FieldType} (isPart : part.PartOf type) {java : TypeDescriptor}
    (resolved : type.resolve names = .ok java) :
    ∃ own, part.resolve names = .ok own ∧
      ∀ target types, own = .reference target types → own.PartOf java := by
  induction isPart generalizing java with
  | itself => exact ⟨java, resolved, fun _ _ _ => .itself⟩
  | argument notPrimitive isArg _ ih =>
      obtain ⟨args, each, rfl⟩ := (resolve_path_eq_ok_iff notPrimitive).mp resolved
      obtain ⟨arg, isResolved, same⟩ := resolve_of_mem each isArg
      obtain ⟨own, ofPart, inside⟩ := ih same
      refine ⟨own, ofPart, ?_⟩
      rintro target types rfl
      exact partOf_pathDescriptor _ isResolved (inside target types rfl)
  | element _ ih =>
      rw [FieldType.resolve] at resolved
      obtain ⟨component, own, resolved⟩ := bind_eq_ok_iff.mp resolved
      obtain rfl := Except.ok.inj resolved
      obtain ⟨own, ofPart, inside⟩ := ih own
      exact ⟨own, ofPart, fun target types same => .component (inside target types same)⟩
  | parenthesized _ ih =>
      rw [FieldType.resolve] at resolved
      exact ih resolved

end FieldType

/-- A name that stands by itself denotes a class: in types, unless it has a type of its own there,
and in registrations. -/
structure Names.Denotes (names : Names) (name target : String) : Prop where
  type : ¬IsMapped name → ∀ args,
    (FieldType.path [] name args).resolve names =
      (FieldType.resolveAll names args).map fun types => .reference target (types.map (·.toBoxed))
  registered : registeredName names [name] = target

theorem Names.denotes_iff {name target : String} :
    names.Denotes name target ↔ names.className name = target := by
  refine ⟨fun denotes => denotes.registered, ?_⟩
  rintro rfl
  refine ⟨fun unmapped args => ?_, rfl⟩
  have notPrimitive : primitive? name = none :=
    Option.not_isSome_iff_eq_none.mp fun isPrimitive => unmapped (.inl isPrimitive)
  rw [FieldType.resolve, notPrimitive]
  simp only [pathDescriptor_of_not_isMapped unmapped, Names.pathName, if_pos]
  rfl

/-! ### The table of names -/

/-- The last candidate of a name has a qualified name. -/
def IsLastNamed (candidates : List Candidate) (name qualified : String) : Prop :=
  ∃ earlier last later, candidates = earlier ++ last :: later ∧ last.record.name = name ∧
    last.qualifiedName = qualified ∧ ∀ other ∈ later, other.record.name ≠ name

theorem knownNames_lookup_eq_some_iff {candidates : List Candidate} {name qualified : String} :
    (knownNames candidates).lookup name = some qualified ↔
      IsLastNamed candidates name qualified := by
  unfold knownNames
  rw [List.lookup_eq_some_iff]
  constructor
  · rintro ⟨later, earlier, shape, others⟩
    rw [List.reverse_eq_iff, List.reverse_append, List.reverse_cons, List.append_assoc,
      List.singleton_append, List.map_eq_append_iff] at shape
    obtain ⟨before, rest, rfl, -, shape⟩ := shape
    obtain ⟨last, behind, rfl, own, ofBehind⟩ := List.map_eq_cons_iff.mp shape
    obtain ⟨rfl, rfl⟩ := Prod.mk.inj own
    refine ⟨before, last, behind, rfl, rfl, rfl, ?_⟩
    intro other isLater same
    have isOther : (other.record.name, other.qualifiedName) ∈ later := by
      rw [← List.mem_reverse, ← ofBehind]
      exact List.mem_map.mpr ⟨other, isLater, rfl⟩
    simpa [same] using others _ isOther
  · rintro ⟨earlier, last, later, rfl, rfl, rfl, others⟩
    refine ⟨(later.map fun c => (c.record.name, c.qualifiedName)).reverse,
      (earlier.map fun c => (c.record.name, c.qualifiedName)).reverse, by simp, ?_⟩
    intro entry isLater
    obtain ⟨other, found, rfl⟩ := List.mem_map.mp (List.mem_reverse.mp isLater)
    exact bne_iff_ne.mpr fun same => others other found same.symm

/-- The name of a candidate denotes a class, in any package, exactly when the last candidate of the
name has it for its qualified name. -/
theorem denotes_iff_isLastNamed {candidates : List Candidate} {candidate : Candidate}
    (found : candidate ∈ candidates) (package : Option String) (qualified : String) :
    Names.Denotes ⟨package, knownNames candidates⟩ candidate.record.name qualified ↔
      IsLastNamed candidates candidate.record.name qualified := by
  rw [Names.denotes_iff, ← knownNames_lookup_eq_some_iff, Names.className]
  have isEntry : (candidate.record.name, candidate.qualifiedName) ∈ knownNames candidates :=
    List.mem_reverse.mpr (List.mem_map.mpr ⟨candidate, found, rfl⟩)
  cases isKnown : (knownNames candidates).lookup candidate.record.name with
  | none => simpa using List.lookup_eq_none_iff.mp isKnown _ isEntry
  | some last => simp

/-! ### Targets and registrations -/

/-- Where a field of a record has a name by itself in its type, the parameter of the field has a
class in its type. -/
def FieldsRefer (name qualified : String) (candidate : Candidate) (target : Target) : Prop :=
  ∀ fields, candidate.record.fields = .named fields →
    ∃ parameters, target.constructors = [parameters] ∧
      List.Forall₂ (fun field parameter =>
        ∀ args, (FieldType.path [] name args).PartOf field.type →
          ∃ types, (TypeDescriptor.reference qualified types).PartOf parameter.type)
        fields parameters

/-- Where a factory lists a name by itself, its registration lists a class. -/
def TypesRefer (name qualified : String) (factory : PendingFactory)
    (registration : Registration) : Prop :=
  List.Forall₂ (fun path type => path = [name] → type = qualified) factory.options.types
    registration.types

theorem Names.Denotes.exists_partOf {name qualified : String}
    (denotes : names.Denotes name qualified) (unmapped : ¬IsMapped name) {args : List FieldType}
    {type : FieldType} (isPart : (FieldType.path [] name args).PartOf type) {java : TypeDescriptor}
    (resolved : type.resolve names = .ok java) :
    ∃ types, (TypeDescriptor.reference qualified types).PartOf java := by
  obtain ⟨own, ofPart, inside⟩ := isPart.resolve resolved
  rw [denotes.type unmapped] at ofPart
  cases each : FieldType.resolveAll names args with
  | error spelling => simp [each, Except.map] at ofPart
  | ok types =>
      rw [each] at ofPart
      obtain rfl := Except.ok.inj ofPart
      exact ⟨_, inside _ _ rfl⟩

theorem fieldsRefer_of_targetOf {marker : Option String} {known : List (String × String)}
    {candidate : Candidate} {target : Target} {name qualified : String}
    (denotes : Names.Denotes ⟨candidate.package, known⟩ name qualified)
    (unmapped : ¬IsMapped name) (given : targetOf marker known candidate = .ok target) :
    FieldsRefer name qualified candidate target := by
  intro fields shape
  obtain ⟨parameters, single, each⟩ := constructor_of_targetOf shape given
  refine ⟨parameters, single, each.imp fun field parameter ofField args isPart => ?_⟩
  exact denotes.exists_partOf unmapped isPart (type_of_parameterOf ofField)

theorem typesRefer_registrationOf {known : List (String × String)} {factory : PendingFactory}
    {name qualified : String}
    (denotes : Names.Denotes ⟨factory.declaredIn, known⟩ name qualified) :
    TypesRefer name qualified factory (registrationOf known factory) := by
  refine List.forall₂_map_right_iff.mpr (List.forall₂_same.mpr fun path _ => ?_)
  rintro rfl
  exact denotes.registered

/-! ### Modules -/

/-- A name that the items of a module declare, with the qualified name of the class: the name of a
marked record that stands among them. -/
inductive Declares (package : Option String) (items : List Item) : String → String → Prop
  | record {r : Record} {own : Option String} {marker : Attribute} (stands : .record r ∈ items)
      (isMarked : attributeNamed? "generate_moshi" r.attributes = some marker)
      (applies : packageOf r.attributes package = .ok own) :
      Declares package items r.name (Naming.qualify? own r.name)

/-- A name that a module declares is the name of a candidate of the source. -/
theorem Declares.exists_candidate {package own : Option String} {items inside : List Item}
    {name qualified : String} (declares : Declares own inside name qualified)
    (isModule : ModuleOf package items own inside) {all : List Finding}
    (found : Item.findingsOf package items = .ok all) :
    ∃ candidate ∈ all.filterMap (·.candidate?),
      candidate.record.name = name ∧ candidate.qualifiedName = qualified := by
  cases declares with
  | record stands isMarked applies =>
      obtain ⟨inner, ofInside, included⟩ := Item.findings_of_module found isModule
      obtain ⟨ofItem, foundItem, itemIncluded⟩ := Item.findings_of_mem ofInside stands
      obtain ⟨flags, isFound⟩ := Item.candidate_of_record foundItem isMarked applies
      exact ⟨_, List.mem_filterMap.mpr ⟨_, included (itemIncluded isFound), rfl⟩, rfl, rfl⟩

/-- A name that a module declares has a target under the qualified name of the module's class. In
every package it denotes that class exactly when the last marked record of the name has this
qualified name. Then the class is wherever fields have the name in their types, and wherever
factories list it. -/
theorem scanItems_resolves_in_modules {package marker : Option String} {items : List Item}
    {targets : List Target} {registrations : List Registration}
    (scanned : scanItems package marker items = .ok (targets, registrations)) :
    ∃ findings, Item.findingsOf package items = .ok findings ∧
      let candidates := findings.filterMap (·.candidate?)
      let factories := findings.filterMap (·.factory?)
      let known := knownNames candidates
      List.Forall₂ (fun candidate target => targetOf marker known candidate = .ok target)
        candidates targets ∧
      factories.map (registrationOf known) = registrations ∧
      ∀ own inside, ModuleOf package items own inside →
        ∀ name qualified, Declares own inside name qualified →
          (∃ target ∈ targets, target.qualifiedName = qualified) ∧
          (∀ around, Names.Denotes ⟨around, known⟩ name qualified ↔
            IsLastNamed candidates name qualified) ∧
          (IsLastNamed candidates name qualified →
            (¬IsMapped name → List.Forall₂ (FieldsRefer name qualified) candidates targets) ∧
            List.Forall₂ (TypesRefer name qualified) factories registrations) := by
  obtain ⟨findings, found, given, rfl⟩ := scanItems_eq_ok_iff.mp scanned
  refine ⟨findings, found, given, rfl, ?_⟩
  intro own inside isModule name qualified declares
  obtain ⟨candidate, isCandidate, rfl, rfl⟩ := declares.exists_candidate isModule found
  have denotes := denotes_iff_isLastNamed isCandidate
  refine ⟨?_, fun around => denotes around _, fun isLast => ⟨fun unmapped => ?_, ?_⟩⟩
  · have qualifiedNames : (findings.filterMap (·.candidate?)).map (·.qualifiedName) =
        targets.map (·.qualifiedName) := by
      rw [← List.forall₂_eq_eq_eq, List.forall₂_map_left_iff, List.forall₂_map_right_iff]
      exact given.imp fun _ _ ofRecord => (givesTarget_of_targetOf ofRecord).qualifiedName.symm
    exact List.mem_map.mp (qualifiedNames ▸ List.mem_map_of_mem isCandidate)
  · exact given.imp fun other _ =>
      fieldsRefer_of_targetOf ((denotes other.package _).mpr isLast) unmapped
  · refine List.forall₂_map_right_iff.mpr (List.forall₂_same.mpr fun factory _ => ?_)
    exact typesRefer_registrationOf ((denotes factory.declaredIn _).mpr isLast)

/-- Of two modules that declare a name, the last has its own. -/
theorem scanItems_resolves_in_last_module :
    let mark : Attribute := ⟨false, ["generate_moshi"], .word⟩
    let inPackage (name : String) : Attribute :=
      ⟨false, ["java_package"], .list [.literal (.text name) ("\"" ++ name ++ "\"")]⟩
    let factory : Attribute :=
      ⟨false, ["generate_moshi_factory"], .list [.name "types", .group .parenthesis [.name "X"]]⟩
    let x : Record := ⟨[mark], true, "X", .unit⟩
    let type : FieldType := .path [] "Vec" [.path [] "Option" [.path [] "X" []]]
    let user : Record := ⟨[mark, factory], true, "User", .named [⟨[], "x", type⟩]⟩
    let items : List Item :=
      [.submodule [inPackage "a"] [.record x], .submodule [inPackage "b"] [.record x, .record user]]
    ∃ findings targets registrations,
      Item.findingsOf none items = .ok findings ∧
      scanItems none none items = .ok (targets, registrations) ∧
      let candidates := findings.filterMap (·.candidate?)
      Names.Denotes ⟨some "b", knownNames candidates⟩ "X" "b.X" ∧
      List.Forall₂ (FieldsRefer "X" "b.X") candidates targets ∧
      List.Forall₂ (TypesRefer "X" "b.X") (findings.filterMap (·.factory?)) registrations := by
  intro mark inPackage factory x type user items
  let last : List Item := [.record x, .record user]
  let target (package name : String) (constructor : List Parameter) : Target :=
    { qualifiedName := package ++ "." ++ name, package := package, constructors := [constructor] }
  have scanned : scanItems none none items =
      .ok ([target "a" "X" [], target "b" "X" [],
        target "b" "User"
          [{ name := "x", type := .reference "java.util.List" [.reference "b.X" []] }]],
        [{ declaredIn := some "b", types := ["b.X"] }]) := by
    decide +kernel
  have names : (Item.findingsOf none items).map
      (fun findings => (knownNames (findings.filterMap (·.candidate?))).lookup "X") =
      .ok (some "b.X") := by decide +kernel
  have isModule : ModuleOf none items (some "b") last :=
    .inner .whole (List.mem_cons_of_mem _ List.mem_cons_self) (by decide +kernel)
  have applies : packageOf x.attributes (some "b") = .ok (some "b") := by decide +kernel
  have declares : Declares (some "b") last "X" "b.X" := .record List.mem_cons_self rfl applies
  obtain ⟨findings, found, -, -, resolves⟩ := scanItems_resolves_in_modules scanned
  rw [found] at names
  have isLast : IsLastNamed (findings.filterMap (·.candidate?)) "X" "b.X" :=
    knownNames_lookup_eq_some_iff.mp (Except.ok.inj names)
  obtain ⟨-, denotes, refers⟩ := resolves _ _ isModule _ _ declares
  obtain ⟨fields, types⟩ := refers isLast
  exact ⟨findings, _, _, found, scanned, (denotes _).mpr isLast, fields (by decide), types⟩

/-- Of two modules that declare a name, the first has the record of the second for its own. -/
theorem scanItems_misresolves_in_first_module :
    let mark : Attribute := ⟨false, ["generate_moshi"], .word⟩
    let inPackage (name : String) : Attribute :=
      ⟨false, ["java_package"], .list [.literal (.text name) ("\"" ++ name ++ "\"")]⟩
    let x : Record := ⟨[mark], true, "X", .unit⟩
    let user : Record := ⟨[mark], true, "User", .named [⟨[], "x", .path [] "X" []⟩]⟩
    let items : List Item :=
      [.submodule [inPackage "a"] [.record x, .record user],
        .submodule [inPackage "b"] [.record x]]
    (scanItems none none items).map (fun found => found.1.map fun target =>
        (target.qualifiedName, target.constructors)) =
      .ok [("a.X", [[]]), ("a.User", [[{ name := "x", type := .reference "b.X" [] }]]),
        ("b.X", [[]])] := by
  decide +kernel

end Source

end AdapterGen
