import AdapterGen.Emission.Adapter
import AdapterGen.Emission.Factory
import AdapterGen.Fields

/-!
# Emission

What one target or one registration gives: its units, or the first rule that it
breaks. Nothing is written here.
-/

namespace AdapterGen.Emission

open Code

/-- What a generated class is for. -/
inductive UnitKind where
  | adapter
  | factory
  | aggregateFactory
  deriving DecidableEq, Repr

/-- The wording of a kind. -/
def UnitKind.text : UnitKind → String
  | adapter => "adapter"
  | factory => "factory"
  | aggregateFactory => "aggregate factory"

/-- A generated class. -/
structure EmittedUnit where
  kind : UnitKind
  file : SourceFile
  deriving DecidableEq, Repr

/-- Everything generated for a target. -/
structure EmittedTarget where
  plan : DecodePlan
  units : List EmittedUnit

/-- The units of a target: its adapter, and its factory if it asks for one. -/
def unitsOf (config : Config) (target : Target) (package : String) (plan : DecodePlan) :
    List EmittedUnit :=
  let simple := target.simpleName
  let adapter : EmittedUnit := ⟨.adapter, package, adapterClass config target package plan⟩
  let ref : AdapterRef :=
    ⟨target.qualifiedName, Naming.qualify package (adapterName config simple)⟩
  if target.flags.generateFactory then
    [adapter,
      ⟨.factory, package, factoryClass config (factoryName config simple) package [ref]⟩]
  else [adapter]

/-- Checks the class, then its package, its constructor and its fields, and emits the units. -/
def emitTarget (config : Config) (target : Target) : Except GenerateError EmittedTarget := do
  target.checkVisibility
  let package ← target.requirePackage
  let fields ← target.fields config
  let plan ← DecodePlan.build target.qualifiedName fields
  return ⟨plan, unitsOf config target package plan⟩

/-- The adapter of a registered type: in the package of the first known target of that name,
else in the package that the name suggests. -/
def registeredAdapter (config : Config) (known : List Target) (type : String) : String :=
  let simple := Naming.simpleName type
  let ofTarget := (known.find? (·.qualifiedName == type)).bind (·.package)
  let package := (ofTarget <|> Naming.packageOf? type).getD ""
  Naming.qualify package (adapterName config simple)

/-- The factory of a registration. -/
def emitRegistration (config : Config) (known : List Target) (registration : Registration) :
    Except GenerateError EmittedUnit :=
  match registration.resolvedPackage? with
  | none => .error (.unknownPackage registration.targetClassName)
  | some package =>
      let refs := registration.types.map fun type =>
        (⟨type, registeredAdapter config known type⟩ : AdapterRef)
      .ok ⟨.aggregateFactory, package,
        factoryClass config registration.targetClassName package refs⟩

end AdapterGen.Emission
