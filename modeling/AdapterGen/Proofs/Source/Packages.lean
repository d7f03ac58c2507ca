import AdapterGen.Proofs.Source.Findings

/-!
# Packages of modules

Every item of a source has a place: the modules around it. Targets and registrations come in the
order of the places of what declares them, and their package is the one that the declaring item
names, else the one of the innermost module around it that names one.

## Implementation notes

A scan hands a package down from module to module, and a place keeps the attributes of all modules
around an item. The induction over items is on both at once: the package handed down is the nearest
one of the modules so far.
-/

namespace AdapterGen.Source

/-! ### Places -/

/-- An item with the attributes of the modules around it, the innermost module first. -/
structure Place where
  around : List (List Attribute)
  item : Item

namespace Item

mutual

/-- An item and all that is inside of it, in the order in which it stands. -/
def places (around : List (List Attribute)) : Item → List Place
  | record r => [⟨around, record r⟩]
  | submodule attributes items =>
      ⟨around, submodule attributes items⟩ :: placesOf (attributes :: around) items
  | enumeration attributes => [⟨around, enumeration attributes⟩]
  | other => [⟨around, other⟩]

/-- The places of items that stand in the same module. -/
def placesOf (around : List (List Attribute)) : List Item → List Place
  | [] => []
  | item :: items => places around item ++ placesOf around items

end

/-- The attributes of an item. -/
def attributes : Item → List Attribute
  | record r => r.attributes
  | submodule attributes _ | enumeration attributes => attributes
  | other => []

/-- The attributes that may name a package for an item. Those of an enumeration do not. -/
def packageAttributes : Item → List Attribute
  | record r => r.attributes
  | submodule attributes _ => attributes
  | enumeration _ | other => []

end Item

/-- An item stands in a source, directly or inside of modules. -/
inductive Stands (items : List Item) : List (List Attribute) → Item → Prop
  | outside {item : Item} (isItem : item ∈ items) : Stands items [] item
  | inside {around : List (List Attribute)} {attributes : List Attribute} {inner : List Item}
      {item : Item} (within : Stands items around (.submodule attributes inner))
      (isItem : item ∈ inner) : Stands items (attributes :: around) item

namespace Item

theorem mem_placesOf_iff_exists {around : List (List Attribute)} {items : List Item}
    {place : Place} :
    place ∈ placesOf around items ↔ ∃ item ∈ items, place ∈ places around item := by
  induction items with
  | nil => simp [placesOf]
  | cons item items ih => simp [placesOf, ih]

theorem mem_places_self (around : List (List Attribute)) (item : Item) :
    ⟨around, item⟩ ∈ places around item := by
  cases item <;> simp [places]

mutual

theorem stands_of_mem_places {source : List Item} {around : List (List Attribute)} :
    ∀ {item : Item}, Stands source around item → ∀ {place : Place},
      place ∈ places around item → Stands source place.around place.item
  | record _, stands, _, found | enumeration _, stands, _, found | other, stands, _, found => by
      obtain rfl := List.mem_singleton.mp found
      exact stands
  | submodule attributes inner, stands, place, found => by
      rcases List.mem_cons.mp found with rfl | isInside
      · exact stands
      · exact stands_of_mem_placesOf (fun item isItem => .inside stands isItem) isInside

theorem stands_of_mem_placesOf {source : List Item} {around : List (List Attribute)} :
    ∀ {items : List Item}, (∀ item ∈ items, Stands source around item) → ∀ {place : Place},
      place ∈ placesOf around items → Stands source place.around place.item
  | [], _, _, found => nomatch found
  | item :: items, stand, place, found => by
      rcases List.mem_append.mp found with isFirst | isLater
      · exact stands_of_mem_places (stand item List.mem_cons_self) isFirst
      · exact stands_of_mem_placesOf (fun item isItem => stand item (List.mem_cons_of_mem _ isItem))
          isLater

end

mutual

theorem inside_subset_places {around chain : List (List Attribute)} {attributes : List Attribute}
    {inner : List Item} :
    ∀ {item : Item}, ⟨chain, submodule attributes inner⟩ ∈ places around item →
      placesOf (attributes :: chain) inner ⊆ places around item
  | record _, found | enumeration _, found | other, found => by
      simp [places] at found
  | submodule own items, found => by
      rcases List.mem_cons.mp found with isModule | isInside
      · simp only [Place.mk.injEq, submodule.injEq] at isModule
        obtain ⟨rfl, rfl, rfl⟩ := isModule
        exact List.subset_cons_self _ _
      · exact List.subset_cons_of_subset _ (inside_subset_placesOf isInside)

theorem inside_subset_placesOf {around chain : List (List Attribute)}
    {attributes : List Attribute} {inner : List Item} :
    ∀ {items : List Item}, ⟨chain, submodule attributes inner⟩ ∈ placesOf around items →
      placesOf (attributes :: chain) inner ⊆ placesOf around items
  | [], found => nomatch found
  | item :: items, found => by
      rcases List.mem_append.mp found with isFirst | isLater
      · exact List.subset_append_of_subset_left _ (inside_subset_places isFirst)
      · exact List.subset_append_of_subset_right _ (inside_subset_placesOf isLater)

end

/-- The places of a source are those of the items that stand in it. -/
theorem mem_placesOf_iff {items : List Item} {around : List (List Attribute)} {item : Item} :
    ⟨around, item⟩ ∈ placesOf [] items ↔ Stands items around item := by
  constructor
  · exact stands_of_mem_placesOf (fun _ isItem => .outside isItem)
  · intro stands
    induction stands with
    | outside isItem => exact mem_placesOf_iff_exists.mpr ⟨_, isItem, mem_places_self [] _⟩
    | inside _ isItem ih =>
        exact inside_subset_placesOf ih
          (mem_placesOf_iff_exists.mpr ⟨_, isItem, mem_places_self _ _⟩)

end Item

/-! ### Packages -/

/-- The package that attributes name. -/
def namedPackage? (attributes : List Attribute) : Option String :=
  (attributeNamed? "java_package" attributes).bind (·.packageName?)

/-- The package of the innermost of several modules that names one, else the default. -/
def nearestPackage? (defaultPackage : Option String) (chain : List (List Attribute)) :
    Option String :=
  (chain.findSome? namedPackage?).or defaultPackage

theorem packageOf_eq_ok {attributes : List Attribute} {enclosing own : Option String}
    (applies : packageOf attributes enclosing = .ok own) :
    own = (namedPackage? attributes).or enclosing := by
  unfold packageOf at applies
  unfold namedPackage?
  split at applies
  · rename_i marker isNamed
    obtain ⟨name, named, rfl⟩ := orError_map_eq_ok_iff.mp applies
    simp [isNamed, named]
  · rename_i notNamed
    simp [notNamed, Except.ok.inj applies]

theorem nearestPackage?_cons (defaultPackage : Option String) (attributes : List Attribute)
    (chain : List (List Attribute)) :
    nearestPackage? defaultPackage (attributes :: chain) =
      (namedPackage? attributes).or (nearestPackage? defaultPackage chain) := by
  unfold nearestPackage?
  rw [List.findSome?_cons]
  cases namedPackage? attributes <;> rfl

namespace Place

/-- The package that applies at a place: the one that the item names, else the nearest one. -/
def package? (defaultPackage : Option String) (place : Place) : Option String :=
  nearestPackage? defaultPackage (place.item.packageAttributes :: place.around)

/-- The marked record at a place, with the package that applies to it. -/
def marked? (defaultPackage : Option String) (place : Place) : Option (Record × Option String) :=
  match place.item with
  | .record r =>
      if r.attributes.any (·.named "generate_moshi") then some (r, place.package? defaultPackage)
      else none
  | _ => none

/-- The attributes that declare factories at a place, with the package that applies to them. -/
def factories (defaultPackage : Option String) (place : Place) :
    List (Attribute × Option String) :=
  (place.item.attributes.filter (·.named "generate_moshi_factory")).map
    (·, place.package? defaultPackage)

theorem filterMap_marked?_record (defaultPackage : Option String) (around : List (List Attribute))
    (r : Record) :
    [(⟨around, .record r⟩ : Place)].filterMap (marked? defaultPackage) =
      if r.attributes.any (·.named "generate_moshi") then
        [(r, nearestPackage? defaultPackage (r.attributes :: around))]
      else [] := by
  cases marked : r.attributes.any (·.named "generate_moshi") <;>
    simp [marked?, marked, package?, Item.packageAttributes]

end Place

/-! ### Findings by places -/

/-- The candidate that a marked record in a package is. -/
def IsCandidate (declared : Record × Option String) (candidate : Candidate) : Prop :=
  ∃ flags, candidate = ⟨declared.1, declared.2, flags⟩

/-- The factory that an attribute in a package describes. -/
def IsFactory (declared : Attribute × Option String) (factory : PendingFactory) : Prop :=
  ∃ options, declared.1.factory? = some options ∧ factory = ⟨declared.2, options⟩

/-- Findings are what some places declare, in order. -/
structure FoundAt (defaultPackage : Option String) (places : List Place)
    (found : List Finding) : Prop where
  candidates : List.Forall₂ IsCandidate (places.filterMap (·.marked? defaultPackage))
    (found.filterMap (·.candidate?))
  factories : List.Forall₂ IsFactory (places.flatMap (·.factories defaultPackage))
    (found.filterMap (·.factory?))

variable {defaultPackage : Option String}

theorem FoundAt.append {places others : List Place} {found later : List Finding}
    (first : FoundAt defaultPackage places found) (second : FoundAt defaultPackage others later) :
    FoundAt defaultPackage (places ++ others) (found ++ later) where
  candidates := by
    rw [List.filterMap_append, List.filterMap_append]
    exact List.rel_append first.candidates second.candidates
  factories := by
    rw [List.flatMap_append, List.filterMap_append]
    exact List.rel_append first.factories second.factories

theorem factoriesOf_found {attributes : List Attribute} {package : Option String}
    {found : List Finding} (given : factoriesOf attributes package = .ok found) :
    found.filterMap (·.candidate?) = [] ∧
      List.Forall₂ IsFactory
        ((attributes.filter (·.named "generate_moshi_factory")).map (·, package))
        (found.filterMap (·.factory?)) := by
  unfold factoriesOf at given
  rw [mapM_eq_ok_iff] at given
  rw [List.forall₂_map_left_iff]
  generalize attributes.filter _ = markers at given ⊢
  induction given with
  | nil => exact ⟨rfl, .nil⟩
  | cons described _ ih =>
      obtain ⟨options, read, rfl⟩ := orError_map_eq_ok_iff.mp described
      exact ⟨ih.1, .cons ⟨options, read, rfl⟩ ih.2⟩

theorem candidateOf_found {record : Record} {package : Option String} {found : List Finding}
    (given : candidateOf record package = .ok found) :
    found.filterMap (·.factory?) = [] ∧
      List.Forall₂ IsCandidate
        (if record.attributes.any (·.named "generate_moshi") then [(record, package)] else [])
        (found.filterMap (·.candidate?)) := by
  cases isMarked : attributeNamed? "generate_moshi" record.attributes with
  | some marker =>
      obtain ⟨flags, -, rfl⟩ := candidateOf_of_marked given isMarked
      have marked : record.attributes.any (·.named "generate_moshi") = true :=
        List.any_eq_true.mpr ⟨marker, List.mem_of_find?_eq_some isMarked, List.find?_some isMarked⟩
      rw [if_pos marked]
      exact ⟨rfl, .cons ⟨flags, rfl⟩ .nil⟩
  | none =>
      have notMarked : record.attributes.any (·.named "generate_moshi") = false :=
        List.any_eq_false.mpr (List.find?_eq_none.mp isMarked)
      simp only [candidateOf, isMarked] at given
      obtain rfl := Except.ok.inj given
      rw [notMarked]
      exact ⟨rfl, .nil⟩

/-- What the attributes of an item declare, found at its place. -/
theorem foundAt_of_factories {place : Place} {found : List Finding} {package : Option String}
    (applies : package = place.package? defaultPackage)
    (unmarked : place.marked? defaultPackage = none)
    (given : factoriesOf place.item.attributes package = .ok found) :
    FoundAt defaultPackage [place] found := by
  obtain ⟨noCandidate, factories⟩ := factoriesOf_found given
  subst applies
  refine ⟨?_, ?_⟩
  · simp [noCandidate, unmarked]
  · simpa [Place.factories] using factories

namespace Item

mutual

theorem findings_foundAt {around : List (List Attribute)} :
    ∀ {item : Item} {found : List Finding},
      findings (nearestPackage? defaultPackage around) item = .ok found →
        FoundAt defaultPackage (places around item) found
  | record r, found, given => by
      rw [findings] at given
      obtain ⟨own, applies, given⟩ := bind_eq_ok_iff.mp given
      obtain ⟨declared, factories, given⟩ := bind_eq_ok_iff.mp given
      obtain ⟨marked, candidate, given⟩ := bind_eq_ok_iff.mp given
      obtain rfl := Except.ok.inj given
      have isOwn : own = nearestPackage? defaultPackage (r.attributes :: around) := by
        rw [packageOf_eq_ok applies, nearestPackage?_cons]
      obtain ⟨noCandidate, factories⟩ := factoriesOf_found factories
      obtain ⟨noFactory, candidate⟩ := candidateOf_found candidate
      subst isOwn
      refine ⟨?_, ?_⟩
      · rw [places, Place.filterMap_marked?_record, List.filterMap_append, noCandidate,
          List.nil_append]
        exact candidate
      · rw [places, List.flatMap_singleton, List.filterMap_append, noFactory, List.append_nil]
        exact factories
  | submodule attributes items, found, given => by
      rw [findings] at given
      obtain ⟨own, applies, given⟩ := bind_eq_ok_iff.mp given
      obtain ⟨declared, factories, given⟩ := bind_eq_ok_iff.mp given
      obtain ⟨inner, inside, given⟩ := bind_eq_ok_iff.mp given
      obtain rfl := Except.ok.inj given
      have isOwn : own = nearestPackage? defaultPackage (attributes :: around) := by
        rw [packageOf_eq_ok applies, nearestPackage?_cons]
      subst isOwn
      have itself : FoundAt defaultPackage [⟨around, submodule attributes items⟩] declared :=
        foundAt_of_factories rfl rfl factories
      exact itself.append (findingsOf_foundAt inside)
  | enumeration attributes, found, given => by
      refine foundAt_of_factories ?_ rfl given
      exact (nearestPackage?_cons defaultPackage [] around).symm
  | other, found, given => by
      obtain rfl := Except.ok.inj given
      exact ⟨.nil, .nil⟩

theorem findingsOf_foundAt {around : List (List Attribute)} :
    ∀ {items : List Item} {found : List Finding},
      findingsOf (nearestPackage? defaultPackage around) items = .ok found →
        FoundAt defaultPackage (placesOf around items) found
  | [], found, given => by
      obtain rfl := Except.ok.inj given
      exact ⟨.nil, .nil⟩
  | item :: items, found, given => by
      obtain ⟨first, others, ofItem, ofItems, rfl⟩ := findingsOf_cons_eq_ok_iff.mp given
      exact (findings_foundAt ofItem).append (findingsOf_foundAt ofItems)

end

end Item

/-! ### Sources -/

/-- The target that a marked record in a package gives. -/
structure GivesTarget (marker : Option String) (known : List (String × String))
    (declared : Record × Option String) (target : Target) : Prop where
  given : ∃ flags, targetOf marker known ⟨declared.1, declared.2, flags⟩ = .ok target
  package : target.package = declared.2
  qualifiedName : target.qualifiedName = Naming.qualify? declared.2 declared.1.name

/-- The registration that an attribute in a package gives. -/
structure GivesRegistration (known : List (String × String)) (declared : Attribute × Option String)
    (registration : Registration) : Prop where
  given : ∃ options, declared.1.factory? = some options ∧
    registration = registrationOf known ⟨declared.2, options⟩
  declaredIn : registration.declaredIn = declared.2

theorem givesTarget_of_targetOf {marker : Option String} {known : List (String × String)}
    {candidate : Candidate} {target : Target}
    (given : targetOf marker known candidate = .ok target) :
    GivesTarget marker known (candidate.record, candidate.package) target := by
  obtain ⟨constructors, -, same⟩ := bind_eq_ok_iff.mp given
  obtain rfl := Except.ok.inj same
  exact ⟨⟨candidate.flags, given⟩, rfl, rfl⟩

/-- The targets and registrations of a source are those of its places, in order. -/
theorem scanItems_places {marker : Option String} {items : List Item} {targets : List Target}
    {registrations : List Registration}
    (scanned : scanItems defaultPackage marker items = .ok (targets, registrations)) :
    ∃ known,
      List.Forall₂ (GivesTarget marker known)
        ((Item.placesOf [] items).filterMap (·.marked? defaultPackage)) targets ∧
      List.Forall₂ (GivesRegistration known)
        ((Item.placesOf [] items).flatMap (·.factories defaultPackage)) registrations := by
  obtain ⟨findings, found, given, rfl⟩ := scanItems_eq_ok_iff.mp scanned
  have here : FoundAt defaultPackage (Item.placesOf [] items) findings :=
    Item.findingsOf_foundAt found
  refine ⟨knownNames (findings.filterMap (·.candidate?)), ?_, ?_⟩
  · refine (forall₂_comp here.candidates given).imp ?_
    rintro declared target ⟨_, ⟨flags, rfl⟩, given⟩
    exact givesTarget_of_targetOf given
  · refine List.forall₂_map_right_iff.mpr (here.factories.imp ?_)
    rintro declared _ ⟨options, read, rfl⟩
    exact ⟨⟨options, read, rfl⟩, rfl⟩

/-- The targets of a source are those of the marked records that stand in it, in order, and the
registrations those of the factories that stand in it. The package of each is the one that its item
names, else the nearest one of the modules around it, else the default. -/
theorem scanItems_inherits_packages {marker : Option String} {items : List Item}
    {targets : List Target} {registrations : List Registration}
    (scanned : scanItems defaultPackage marker items = .ok (targets, registrations)) :
    (∀ around item, ⟨around, item⟩ ∈ Item.placesOf [] items ↔ Stands items around item) ∧
    ∃ known,
      List.Forall₂ (GivesTarget marker known)
        ((Item.placesOf [] items).filterMap (·.marked? defaultPackage)) targets ∧
      List.Forall₂ (GivesRegistration known)
        ((Item.placesOf [] items).flatMap (·.factories defaultPackage)) registrations :=
  ⟨fun _ _ => Item.mem_placesOf_iff, scanItems_places scanned⟩

/-- Records before a module, behind it and inside of it, where another module and a record replace
its package. The module and the record declare factories. -/
theorem scanItems_inherits_packages_of_nested :
    let mark : Attribute := ⟨false, ["generate_moshi"], .word⟩
    let inPackage (name : String) : Attribute :=
      ⟨false, ["java_package"], .list [.literal (.text name) ("\"" ++ name ++ "\"")]⟩
    let factory : Attribute :=
      ⟨false, ["generate_moshi_factory"], .list [.name "types", .group .parenthesis [.name "Last"]]⟩
    let unit (name : String) (attributes : List Attribute) : Item :=
      .record ⟨mark :: attributes, true, name, .unit⟩
    let items : List Item :=
      [unit "First" [],
        .submodule [factory, inPackage "a"]
          [unit "Outer" [],
            .submodule [inPackage "b"] [unit "Inner" [], unit "Own" [inPackage "c", factory]],
            .submodule [] [unit "Plain" []]],
        unit "Last" []]
    let target (package : Option String) (name : String) : Target :=
      { qualifiedName := name, package := package, constructors := [[]] }
    let targets : List Target :=
      [target none "First", target (some "a") "a.Outer", target (some "b") "b.Inner",
        target (some "c") "c.Own", target (some "a") "a.Plain", target none "Last"]
    let registrations : List Registration :=
      [{ declaredIn := some "a", types := ["Last"] }, { declaredIn := some "c", types := ["Last"] }]
    scanItems none none items = .ok (targets, registrations) ∧
      ∃ known,
        List.Forall₂ (GivesTarget none known)
          ((Item.placesOf [] items).filterMap (·.marked? none)) targets ∧
        List.Forall₂ (GivesRegistration known)
          ((Item.placesOf [] items).flatMap (·.factories none)) registrations := by
  intro mark inPackage factory unit items target targets registrations
  have scanned : scanItems none none items = .ok (targets, registrations) := by decide +kernel
  exact ⟨scanned, (scanItems_inherits_packages scanned).2⟩

end AdapterGen.Source
