import AdapterGen.Code.SourceFile
import AdapterGen.Code.StringLiteral
import AdapterGen.Emission.Locals
import AdapterGen.Emission.Names
import AdapterGen.Text.Ascending

/-!
# The adapter of a target

A class that decodes its target key by key, checks that the required keys
occurred, and passes writing on to the next adapter.
-/

namespace AdapterGen.Emission

open Code

/-- A log statement with the text of its arguments. -/
def logStep (args : String) : Step := .statement ("LOGGER.log(Level.FINE, " ++ args ++ ")")

/-- Steps that are written only with logging on. -/
def whenLogging (debugLogs : Bool) (steps : List Step) : List Step :=
  if debugLogs then steps else []

/-- The expression that reads a scalar. -/
def scalarRead (method : ReadMethod) (narrowTo : Option PrimitiveKind) : String :=
  match narrowTo with
  | some kind => "(" ++ kind.keyword ++ ") reader." ++ method.name ++ "()"
  | none => "reader." ++ method.name ++ "()"

/-- The expression that reads a value of a class unless it is null. -/
def readUnlessNull (className read : String) : String :=
  "(reader.peek() == JsonReader.Token.NULL) ? reader.<" ++ className ++ ">nextNull() : " ++ read

/-- The read of one field into its local. -/
def readSteps (plan : FieldPlan) (target : String) (debugLogs : Bool) : List Step :=
  match plan.strategy with
  | .primitive kind method narrowTo =>
      let read := scalarRead method narrowTo
      [.statement (target ++ " = " ++
        if plan.field.nullable then
          readUnlessNull kind.boxedName (kind.boxedName ++ ".valueOf(" ++ read ++ ")")
        else read)]
  | .string =>
      [.statement (target ++ " = " ++
        if plan.field.nullable then readUnlessNull "String" "reader.nextString()"
        else "reader.nextString()")]
  | .delegated type expr =>
      flow "" <|
        [.statement ("final JsonAdapter<" ++ type.toBoxed.render ++ "> _adapter = moshi.adapter(" ++
          expr.render ++ ")")] ++
        whenLogging debugLogs
          [logStep (stringLiteral "\tGot delegate adapter: \x7b0\x7d" ++ ", _adapter")] ++
        [.statement (target ++ " = _adapter.fromJson(reader)")] ++
        whenLogging debugLogs
          [logStep (stringLiteral "\tGot model data: \x7b0\x7d" ++ ", " ++ target)]

/-- One arm of the switch over keys. -/
def armSteps (locals : List (String × String)) (debugLogs : Bool) (plan : FieldPlan) : List Step :=
  .line ("case " ++ stringLiteral plan.field.jsonName ++ ":") ::
    indented (readSteps plan (localOf locals plan.field) debugLogs ++ [.statement "break"])

/-- The check that a required field's key occurred. -/
def requireSteps (locals : List (String × String)) (field : Field) : List Step :=
  flow ("if (" ++ localOf locals field ++ " == null)")
    [.statement ("throw new IOException(" ++
      stringLiteral (missingFieldMessage field.jsonName) ++ ")")]

/-- The declaration of a field's local. -/
def declareStep (locals : List (String × String)) (field : Field) : Step :=
  .statement (field.type.toBoxed.render ++ " " ++ localOf locals field ++ " = null")

/-- The body of the decoder. -/
def decoderSteps (targetName : String) (plan : DecodePlan) (debugLogs : Bool) : List Step :=
  let fields := plan.fields.map (·.field)
  let locals := localNames targetName fields
  whenLogging debugLogs [logStep "\"Reading json\""] ++
    fields.map (declareStep locals) ++
    [.statement "reader.beginObject()"] ++
    flow "while (reader.hasNext())"
      ([.statement "final String _name = reader.nextName()"] ++
        whenLogging debugLogs [logStep (stringLiteral "\tGot name: \x7b0\x7d" ++ ", _name")] ++
        flow "switch (_name)"
          (plan.fields.flatMap (armSteps locals debugLogs) ++
            .line "default:" :: indented [.statement "reader.skipValue()"])) ++
    [.statement "reader.endObject()"] ++
    plan.requiredFields.flatMap (requireSteps locals) ++
    [.statement ("return new " ++ targetName ++ "(" ++
      Text.join ", " (fields.map (localOf locals)) ++ ")")]

/-- The method that decodes. -/
def decoder (targetName : String) (plan : DecodePlan) (debugLogs : Bool) : MethodDecl where
  name := "fromJson"
  annotations := ["Override"]
  modifiers := [.isPublic]
  returns := some targetName
  parameters := [{ type := "JsonReader", name := "reader" }]
  throws := ["IOException"]
  body := Block.ofSteps (decoderSteps targetName plan debugLogs)

/-- The body of the encoder. -/
def encoderSteps : List Step :=
  [.statement "moshi.nextAdapter(factory, type, annotations).toJson(writer, value)"]

/-- The method that passes writing on to the next adapter. -/
def encoder (targetName : String) : MethodDecl where
  name := "toJson"
  annotations := ["Override"]
  modifiers := [.isPublic]
  parameters := [{ type := "JsonWriter", name := "writer" }, { type := targetName, name := "value" }]
  throws := ["IOException"]
  body := Block.ofSteps encoderSteps

/-- The body of the adapter's constructor. -/
def constructorSteps (name : String) (debugLogs : Bool) : List Step :=
  whenLogging debugLogs [logStep (stringLiteral ("Constructing " ++ name))] ++
    [.statement "this.moshi = moshi", .statement "this.factory = factory",
      .statement "this.type = type", .statement "this.annotations = annotations"]

/-- The adapter's constructor. -/
def adapterConstructor (name : String) (debugLogs : Bool) : MethodDecl where
  name := MethodDecl.constructorName
  returns := none
  modifiers := [.isPublic]
  parameters :=
    [{ type := "Moshi", name := "moshi" }, { type := "JsonAdapter.Factory", name := "factory" },
      { type := "Type", name := "type" }, { type := annotationsType, name := "annotations" }]
  body := Block.ofSteps (constructorSteps name debugLogs)

/-- A field that is set once. -/
def finalField (type name : String) : FieldDecl where
  type := type
  name := name
  modifiers := [.isPrivate, .isFinal]

/-- The logger of a class. -/
def loggerField (qualifiedName : String) : FieldDecl where
  type := "Logger"
  name := "LOGGER"
  modifiers := [.isPrivate, .isStatic, .isFinal]
  initializer := some ("Logger.getLogger(" ++ stringLiteral qualifiedName ++ ")")

/-- The classes that an adapter imports. -/
def adapterImports (usesTypes debugLogs : Bool) : List String :=
  [jsonAdapterClass, jsonReaderClass, jsonWriterClass, moshiClass, ioExceptionClass,
      annotationClass, reflectTypeClass, setClass] ++
    (if usesTypes then [TypeExpr.helperClass] else []) ++
    (if debugLogs then [levelClass, loggerClass] else [])

/-- The adapter class of a target. -/
def adapterClass (config : Config) (target : Target) (package : String) (plan : DecodePlan) :
    ClassDecl :=
  let name := adapterName config target.simpleName
  let debugLogs := target.flags.debugLogs
  { name := name
    modifiers := [.isPublic]
    javadoc := some config.javadoc
    superclass := some ("JsonAdapter<" ++ target.qualifiedName ++ ">")
    imports := Text.ascending (adapterImports plan.usesTypesHelper debugLogs)
    fields :=
      (if debugLogs then [loggerField (Naming.qualify package name)] else []) ++
        [finalField "Moshi" "moshi", finalField "JsonAdapter.Factory" "factory",
          finalField "Type" "type", finalField annotationsType "annotations"]
    methods :=
      [adapterConstructor name debugLogs, decoder target.qualifiedName plan debugLogs,
        encoder target.qualifiedName] }

end AdapterGen.Emission
