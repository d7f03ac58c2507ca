import AdapterGen.GenerateError
import AdapterGen.Target
import AdapterGen.TypeExpr

/-!
# Decode plans

How each field is read, chosen by its type, and the table from JSON keys to
reads. A plan exists only when every field has a read and no key repeats.
-/

namespace AdapterGen

/-- A method of the JSON reader that reads a scalar. -/
inductive ReadMethod where
  | nextBoolean
  | nextInt
  | nextLong
  | nextDouble
  | nextString
  deriving DecidableEq, Repr

/-- The name of a reader method. -/
def ReadMethod.name : ReadMethod → String
  | nextBoolean => "nextBoolean"
  | nextInt => "nextInt"
  | nextLong => "nextLong"
  | nextDouble => "nextDouble"
  | nextString => "nextString"

/-- How a field is read: a scalar that may be narrowed by a cast, a string, or through the
adapter of its type. -/
inductive DecodeStrategy where
  | primitive (kind : PrimitiveKind) (method : ReadMethod) (narrowTo : Option PrimitiveKind)
  | string
  | delegated (type : TypeDescriptor) (expr : TypeExpr)

namespace DecodeStrategy

/-- The scalar read of a kind, if the reader has one. -/
def scalar? : PrimitiveKind → Option (ReadMethod × Option PrimitiveKind)
  | .boolean => some (.nextBoolean, none)
  | .short => some (.nextInt, some .short)
  | .int => some (.nextInt, none)
  | .long => some (.nextLong, none)
  | .float => some (.nextDouble, some .float)
  | .double => some (.nextDouble, none)
  | .byte | .char => none

/-- The read of a field of a type. -/
def select (typeName : String) (field : Field) : Except GenerateError DecodeStrategy :=
  match field.type with
  | .primitive kind | .boxed kind =>
      match scalar? kind with
      | some (method, narrowTo) => .ok (primitive kind method narrowTo)
      | none => .error (.unsupportedPrimitive typeName field.name kind)
  | .string => .ok string
  | .array (.primitive _) =>
      .error (.unsupportedPrimitiveArray typeName field.name field.type.render)
  | type => .ok (delegated type (TypeExpr.ofType type))

/-- Whether the read goes through an adapter. -/
def isDelegated : DecodeStrategy → Bool
  | delegated _ _ => true
  | _ => false

/-- Whether the read names the helper class of reflective types. -/
def usesTypesHelper : DecodeStrategy → Bool
  | delegated _ expr => expr.usesHelper
  | _ => false

end DecodeStrategy

/-- A field and its read. -/
structure FieldPlan where
  field : Field
  strategy : DecodeStrategy

/-- The reads of a target's fields, in constructor order. -/
structure DecodePlan where
  target : String
  fields : List FieldPlan

namespace DecodePlan

/-- Plans fields up to the first that cannot be planned, after keys already seen: the planned
ones, and what stopped. -/
def planFields (target : String) : List String → List Field → List FieldPlan × Option GenerateError
  | _, [] => ([], none)
  | seen, field :: rest =>
      if seen.contains field.jsonName then
        ([], some (.duplicateJsonKey target field.jsonName))
      else
        match DecodeStrategy.select target field with
        | .error error => ([], some error)
        | .ok strategy =>
            let (plans, stopped) := planFields target (field.jsonName :: seen) rest
            (⟨field, strategy⟩ :: plans, stopped)

/-- The plan of all fields, or the first error. -/
def build (target : String) (fields : List Field) : Except GenerateError DecodePlan :=
  match planFields target [] fields with
  | (plans, none) => .ok ⟨target, plans⟩
  | (_, some error) => .error error

/-- The field that a key's value is read into; a key without one is skipped. -/
def armFor? (plan : DecodePlan) (key : String) : Option FieldPlan :=
  plan.fields.find? (·.field.jsonName == key)

/-- The fields whose key must occur. -/
def requiredFields (plan : DecodePlan) : List Field :=
  (plan.fields.map (·.field)).filter (!·.nullable)

/-- Whether some field is read through an adapter. -/
def hasDelegates (plan : DecodePlan) : Bool := plan.fields.any (·.strategy.isDelegated)

/-- Whether some field needs the helper class of reflective types. -/
def usesTypesHelper (plan : DecodePlan) : Bool := plan.fields.any (·.strategy.usesTypesHelper)

/-- Whether some read looks for an explicit null. -/
def peeksForNull (plan : DecodePlan) : Bool :=
  plan.fields.any fun p => p.field.nullable && !p.strategy.isDelegated

end DecodePlan

end AdapterGen
