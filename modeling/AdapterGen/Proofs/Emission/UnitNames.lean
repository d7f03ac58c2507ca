import AdapterGen.Proofs.Emission.Accepted
import AdapterGen.Proofs.Naming

/-!
# The names of units

A unit of a target is named by its package, its simple name and a suffix. Two units of one suffix
share a name only if they share the package and the simple name, as two nested classes of one
package may. Units of two suffixes share none when neither suffix ends in the other.
-/

namespace AdapterGen.Emission

open Code

/-- The name of a unit of a target in a package. -/
def unitName (target : Target) (package suffix : String) : String :=
  Naming.qualify package (target.simpleName ++ suffix)

/-- The suffixes of a target's units: the adapter's, and the factory's if it asks for one. -/
def unitSuffixes (config : Config) (target : Target) : List String :=
  config.adapterSuffix ::
    if target.flags.generateFactory then [config.factorySuffix] else []

theorem map_qualifiedName_unitsOf (config : Config) (target : Target) (package : String)
    (plan : DecodePlan) :
    (unitsOf config target package plan).map (·.file.qualifiedName) =
      (unitSuffixes config target).map (unitName target package) := by
  unfold unitsOf unitSuffixes
  split <;> rfl

theorem unitName_eq_iff (s t : Target) (p q suffix : String) :
    unitName s p suffix = unitName t q suffix ↔ p = q ∧ s.simpleName = t.simpleName := by
  unfold unitName
  rw [Naming.qualify_append, Naming.qualify_append, String.append_left_inj]
  exact Naming.qualify_inj (Naming.not_mem_simpleName _) (Naming.not_mem_simpleName _)

/-- Neither of two suffixes ends in the other. -/
def SuffixesApart (a b : String) : Prop :=
  ¬a.toList <:+ b.toList ∧ ¬b.toList <:+ a.toList

theorem SuffixesApart.symm {a b : String} (apart : SuffixesApart a b) : SuffixesApart b a :=
  ⟨apart.2, apart.1⟩

theorem unitName_ne {a b : String} (apart : SuffixesApart a b) (s t : Target) (p q : String) :
    unitName s p a ≠ unitName t q b := by
  intro same
  unfold unitName at same
  rw [Naming.qualify_append, Naming.qualify_append] at same
  have chars := congrArg String.toList same
  rw [String.toList_append, String.toList_append] at chars
  have endsA := List.suffix_append (Naming.qualify p s.simpleName).toList a.toList
  have endsB := List.suffix_append (Naming.qualify q t.simpleName).toList b.toList
  rw [← chars] at endsB
  rcases List.suffix_or_suffix_of_suffix endsA endsB with inB | inA
  · exact apart.1 inB
  · exact apart.2 inA

/-- The units of one target have names of their own. -/
theorem nodup_unitNames {config : Config} {target : Target}
    (apart : target.flags.generateFactory = true →
      SuffixesApart config.adapterSuffix config.factorySuffix) (package : String) :
    ((unitSuffixes config target).map (unitName target package)).Nodup := by
  unfold unitSuffixes
  split
  · rename_i asked
    have differs := unitName_ne (apart asked) target target package package
    simpa using differs
  · simp

/-- Units of two targets have different names if the targets differ in package or simple name. -/
theorem unitName_ne_of_apart {config : Config} {s t : Target} {p q a b : String}
    (isA : a ∈ unitSuffixes config s) (isB : b ∈ unitSuffixes config t)
    (suffixes : s.flags.generateFactory = true ∨ t.flags.generateFactory = true →
      SuffixesApart config.adapterSuffix config.factorySuffix)
    (apart : ¬(p = q ∧ s.simpleName = t.simpleName)) : unitName s p a ≠ unitName t q b := by
  have sameSuffix (suffix : String) : unitName s p suffix ≠ unitName t q suffix :=
    fun same => apart ((unitName_eq_iff s t p q suffix).mp same)
  have ofFactory {target : Target} {suffix : String} (found : suffix ∈ unitSuffixes config target) :
      suffix = config.adapterSuffix ∨
        suffix = config.factorySuffix ∧ target.flags.generateFactory = true := by
    unfold unitSuffixes at found
    split at found <;> simp_all
  rcases ofFactory isA with rfl | ⟨rfl, askedS⟩ <;> rcases ofFactory isB with rfl | ⟨rfl, askedT⟩
  · exact sameSuffix _
  · exact unitName_ne (suffixes (.inr askedT)) s t p q
  · exact unitName_ne (suffixes (.inl askedS)).symm s t p q
  · exact sameSuffix _

/-- The name of a registration's factory. -/
theorem emitRegistration_qualifiedName (config : Config) (known : List Target)
    (registration : Registration) :
    (emitRegistration config known registration).toOption.map (·.file.qualifiedName) =
      registration.qualifiedName? := by
  unfold emitRegistration Registration.qualifiedName?
  cases registration.resolvedPackage? <;> rfl

end AdapterGen.Emission
