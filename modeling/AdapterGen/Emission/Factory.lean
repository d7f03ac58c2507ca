import AdapterGen.Code.SourceFile
import AdapterGen.Emission.Names
import AdapterGen.Text.Ascending

/-!
# Factories

A class that answers a type with its adapter, the first entry for the type
winning, and any other type with null.
-/

namespace AdapterGen.Emission

open Code

/-- A target and its adapter, by qualified names. -/
structure AdapterRef where
  target : String
  adapter : String
  deriving DecidableEq, Repr

/-- A class as it is named in a package: by its simple name if it lives there. -/
def localReference (package qualified : String) : String :=
  if Naming.packageOf? qualified = some package then Naming.simpleName qualified else qualified

/-- The test for one type. -/
def dispatchSteps (package : String) (ref : AdapterRef) : List Step :=
  flow ("if (type == " ++ ref.target ++ ".class)")
    [.statement ("return new " ++ localReference package ref.adapter ++
      "(moshi, this, type, annotations)")]

/-- The body of the factory method. -/
def createSteps (package : String) (adapters : List AdapterRef) : List Step :=
  adapters.flatMap (dispatchSteps package) ++ [.statement "return null"]

/-- The factory method. -/
def createMethod (package : String) (adapters : List AdapterRef) : MethodDecl where
  name := "create"
  annotations := ["Override"]
  modifiers := [.isPublic]
  returns := some "JsonAdapter<?>"
  parameters :=
    [{ type := "Type", name := "type" }, { type := annotationsType, name := "annotations" },
      { type := "Moshi", name := "moshi" }]
  body := Block.ofSteps (createSteps package adapters)

/-- A factory of adapters. -/
def factoryClass (config : Config) (name package : String) (adapters : List AdapterRef) :
    ClassDecl where
  name := name
  modifiers := [.isPublic]
  javadoc := some config.javadoc
  interfaces := ["JsonAdapter.Factory"]
  methods := [createMethod package adapters]
  imports :=
    Text.ascending [jsonAdapterClass, moshiClass, annotationClass, reflectTypeClass, setClass]

end AdapterGen.Emission
