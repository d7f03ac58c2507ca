import AdapterGen.DecodePlan
import AdapterGen.TypeDescriptor.Token

/-!
# Locals of a decoder

Each field is read into a local of its name. A name that would hide something
the decoder's body refers to gets underscores at its end until it is free.
-/

namespace AdapterGen.Emission

/-- Names that the decoder's body refers to. The roots of packages are among them, because a
local of that name hides the package. -/
def reservedLocals : List String :=
  ["reader", "moshi", "_name", "_adapter", "LOGGER", "Level", "Types", "JsonReader", "IOException",
    "com", "java", "javax", "org", "android", "androidx", "Boolean", "Byte", "Short", "Integer",
    "Long", "Character", "Float", "Double", "String", "Object"]

/-- The first segments of the dotted names in a type's text. -/
def packageRoots (type : String) : List String :=
  ((Text.segmentsBy (fun c => !TypeDescriptor.isNameChar c) type.toList).filter
      (·.contains '.')).map
    fun name => String.ofList (name.takeWhile (· != '.'))

/-- The package roots that a decoder's body names. -/
def rootsOf (targetName : String) (fields : List Field) : List String :=
  packageRoots targetName ++ fields.flatMap fun f => packageRoots f.type.toBoxed.render

/-- A name with underscores at its end. -/
def withUnderscores (name : String) (n : Nat) : String := name ++ Text.repeated n "_"

/-- A name with the fewest underscores at its end that is not one of those to avoid. -/
def freshName (avoid : List String) (name : String) : String :=
  match ((List.range (avoid.length + 1)).map (withUnderscores name)).find? (!avoid.contains ·) with
  | some fresh => fresh
  | none => name

/-- The local of each field, given the names to keep free of and those taken; a later field of
the same name comes first. -/
def assignLocals (reserved : List String) :
    (taken : List String) → List (String × String) → List String → List (String × String)
  | _, assigned, [] => assigned
  | taken, assigned, name :: rest =>
      if reserved.contains name then
        let fresh := freshName (reserved ++ taken) name
        assignLocals reserved (fresh :: taken) ((name, fresh) :: assigned) rest
      else assignLocals reserved taken ((name, name) :: assigned) rest

/-- The locals of a decoder: pairs of a field's name and its local. -/
def localNames (targetName : String) (fields : List Field) : List (String × String) :=
  let names := fields.map (·.name)
  assignLocals (reservedLocals ++ rootsOf targetName fields) names [] names

/-- The local of a field. -/
def localOf (locals : List (String × String)) (field : Field) : String :=
  (locals.lookup field.name).getD field.name

end AdapterGen.Emission
