import AdapterGen.Proofs.Outcome
import AdapterGen.Source.Scan

/-!
# What a scan finds

The targets and registrations of a source come from its findings alone, and these include the
findings of every module in the source, in the package that applies to the module.
-/

namespace AdapterGen.Source

/-- The targets of a source are those of the marked records found in it. -/
theorem scanItems_eq_ok_iff {package marker : Option String} {items : List Item}
    {targets : List Target} {registrations : List Registration} :
    scanItems package marker items = .ok (targets, registrations) ↔
      ∃ findings, Item.findingsOf package items = .ok findings ∧
        List.Forall₂
          (fun candidate target =>
            targetOf marker (knownNames (findings.filterMap (·.candidate?))) candidate = .ok target)
          (findings.filterMap (·.candidate?)) targets ∧
        (findings.filterMap (·.factory?)).map
          (registrationOf (knownNames (findings.filterMap (·.candidate?)))) = registrations := by
  unfold scanItems
  constructor
  · intro scanned
    obtain ⟨findings, found, scanned⟩ := bind_eq_ok_iff.mp scanned
    obtain ⟨_, given, scanned⟩ := bind_eq_ok_iff.mp scanned
    obtain ⟨rfl, rfl⟩ := Prod.mk.inj (Except.ok.inj scanned)
    exact ⟨findings, found, mapM_eq_ok_iff.mp given, rfl⟩
  · rintro ⟨findings, found, given, rfl⟩
    exact bind_eq_ok_iff.mpr ⟨findings, found,
      bind_eq_ok_iff.mpr ⟨targets, mapM_eq_ok_iff.mpr given, rfl⟩⟩

/-! ### Single steps -/

theorem orError_eq_ok_iff {ε α : Type} {error : ε} {found : Option α} {a : α} :
    orError error found = .ok a ↔ found = some a := by
  cases found <;> simp [orError]

theorem orError_map_eq_ok_iff {ε α β : Type} {error : ε} {found : Option α} {f : α → β} {b : β} :
    (orError error found).map f = .ok b ↔ ∃ a, found = some a ∧ f a = b := by
  cases found <;> simp [orError, Except.map]

theorem candidateOf_of_marked {record : Record} {package : Option String} {marker : Attribute}
    {own : List Finding} (found : candidateOf record package = .ok own)
    (isMarked : attributeNamed? "generate_moshi" record.attributes = some marker) :
    ∃ flags, marker.flags? = some flags ∧ own = [.candidate ⟨record, package, flags⟩] := by
  simp only [candidateOf, isMarked] at found
  obtain ⟨flags, asked, same⟩ := orError_map_eq_ok_iff.mp found
  exact ⟨flags, asked, same.symm⟩

/-- The parameter of a field has the Java type of the field's type. -/
theorem type_of_parameterOf {marker : Option String} {names : Names} {field : RecordField} {parameter : Parameter}
    (given : parameterOf marker names field = .ok parameter) :
    field.type.resolve names = .ok parameter.type := by
  obtain ⟨type, resolved, given⟩ := bind_eq_ok_iff.mp given
  obtain ⟨annotations, -, given⟩ := bind_eq_ok_iff.mp given
  obtain ⟨key, -, given⟩ := bind_eq_ok_iff.mp given
  obtain rfl := Except.ok.inj given
  exact mapError_eq_ok_iff.mp resolved

/-- The constructor of a record with named fields has a parameter for each. -/
theorem constructor_of_targetOf {marker : Option String} {known : List (String × String)}
    {candidate : Candidate} {target : Target} {declared : List RecordField}
    (shape : candidate.record.fields = .named declared)
    (given : targetOf marker known candidate = .ok target) :
    ∃ parameters, target.constructors = [parameters] ∧
      List.Forall₂ (fun field parameter =>
        parameterOf marker ⟨candidate.package, known⟩ field = .ok parameter)
        declared parameters := by
  obtain ⟨constructors, read, given⟩ := bind_eq_ok_iff.mp given
  obtain rfl := Except.ok.inj given
  rw [mapError_eq_ok_iff, shape] at read
  obtain ⟨parameters, own, read⟩ := bind_eq_ok_iff.mp read
  obtain rfl := Except.ok.inj read
  exact ⟨parameters, rfl, mapM_eq_ok_iff.mp own⟩

/-! ### Modules -/

/-- The modules of a source, the whole source among them: the package that applies to a module, and
the items that stand in it. -/
inductive ModuleOf (package : Option String) (items : List Item) :
    Option String → List Item → Prop
  | whole : ModuleOf package items package items
  | inner {around own : Option String} {outer inside : List Item} {attributes : List Attribute}
      (within : ModuleOf package items around outer)
      (stands : .submodule attributes inside ∈ outer)
      (applies : packageOf attributes around = .ok own) : ModuleOf package items own inside

namespace Item

theorem findingsOf_cons_eq_ok_iff {package : Option String} {item : Item} {items : List Item}
    {all : List Finding} :
    findingsOf package (item :: items) = .ok all ↔
      ∃ first others, findings package item = .ok first ∧
        findingsOf package items = .ok others ∧ first ++ others = all := by
  constructor
  · intro found
    rw [findingsOf] at found
    obtain ⟨first, own, found⟩ := bind_eq_ok_iff.mp found
    obtain ⟨others, later, found⟩ := bind_eq_ok_iff.mp found
    exact ⟨first, others, own, later, Except.ok.inj found⟩
  · rintro ⟨first, others, own, later, rfl⟩
    rw [findingsOf]
    exact bind_eq_ok_iff.mpr ⟨first, own, bind_eq_ok_iff.mpr ⟨others, later, rfl⟩⟩

theorem findings_of_mem {package : Option String} {items : List Item} {item : Item}
    {all : List Finding} (found : findingsOf package items = .ok all) (stands : item ∈ items) :
    ∃ own, findings package item = .ok own ∧ own ⊆ all := by
  induction items generalizing all with
  | nil => nomatch stands
  | cons head rest ih =>
      obtain ⟨first, others, ofHead, ofRest, rfl⟩ := findingsOf_cons_eq_ok_iff.mp found
      rcases List.mem_cons.mp stands with rfl | later
      · exact ⟨first, ofHead, List.subset_append_left first others⟩
      · obtain ⟨own, ofItem, included⟩ := ih ofRest later
        exact ⟨own, ofItem, fun f isOwn => List.mem_append_right first (included isOwn)⟩

theorem candidate_of_record {package own : Option String} {r : Record} {marker : Attribute}
    {all : List Finding} (found : findings package (.record r) = .ok all)
    (isMarked : attributeNamed? "generate_moshi" r.attributes = some marker)
    (applies : packageOf r.attributes package = .ok own) :
    ∃ flags, .candidate ⟨r, own, flags⟩ ∈ all := by
  rw [findings] at found
  obtain ⟨_, named, found⟩ := bind_eq_ok_iff.mp found
  obtain rfl := Except.ok.inj (applies.symm.trans named)
  obtain ⟨factories, -, found⟩ := bind_eq_ok_iff.mp found
  obtain ⟨marked, isCandidate, found⟩ := bind_eq_ok_iff.mp found
  obtain rfl := Except.ok.inj found
  obtain ⟨flags, -, rfl⟩ := candidateOf_of_marked isCandidate isMarked
  exact ⟨flags, List.mem_append_right _ (List.mem_singleton_self _)⟩

theorem findings_submodule {package own : Option String} {attributes : List Attribute}
    {inside : List Item} {all : List Finding}
    (found : findings package (.submodule attributes inside) = .ok all)
    (applies : packageOf attributes package = .ok own) :
    ∃ inner, findingsOf own inside = .ok inner ∧ inner ⊆ all := by
  rw [findings] at found
  obtain ⟨_, named, found⟩ := bind_eq_ok_iff.mp found
  obtain rfl := Except.ok.inj (applies.symm.trans named)
  obtain ⟨factories, -, found⟩ := bind_eq_ok_iff.mp found
  obtain ⟨inner, ofInside, found⟩ := bind_eq_ok_iff.mp found
  obtain rfl := Except.ok.inj found
  exact ⟨inner, ofInside, List.subset_append_right factories inner⟩

/-- What stands in a module of a source is found with the source. -/
theorem findings_of_module {package own : Option String} {items inside : List Item}
    {all : List Finding} (found : findingsOf package items = .ok all)
    (isModule : ModuleOf package items own inside) :
    ∃ inner, findingsOf own inside = .ok inner ∧ inner ⊆ all := by
  induction isModule with
  | whole => exact ⟨all, found, List.Subset.refl all⟩
  | inner within stands applies ih =>
      obtain ⟨outer, ofOuter, outerIncluded⟩ := ih
      obtain ⟨ofItem, foundItem, itemIncluded⟩ := findings_of_mem ofOuter stands
      obtain ⟨inner, ofInside, innerIncluded⟩ := findings_submodule foundItem applies
      refine ⟨inner, ofInside, fun finding isInner => ?_⟩
      exact outerIncluded (itemIncluded (innerIncluded isInner))

end Item

end AdapterGen.Source
