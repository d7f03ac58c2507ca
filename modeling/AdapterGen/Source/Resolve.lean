import AdapterGen.Naming
import AdapterGen.Source.Syntax
import AdapterGen.TypeDescriptor

/-!
# Types of fields

The Java type of a field's type. Collections and owned texts have types of
their own, a box is what is in it, and any other name is that of a class.
-/

namespace AdapterGen.Source

/-- The names that a type may refer to: the package at hand, and the scanned records with their
qualified names, the latest first. -/
structure Names where
  package : Option String
  known : List (String × String)

/-- The class that a name denotes: the last scanned record of the name, or a class of the package
at hand. -/
def Names.className (names : Names) (name : String) : String :=
  (names.known.lookup name).getD (Naming.qualify? names.package name)

/-- The class that a path denotes. -/
def Names.pathName (names : Names) (qualifier : List String) (name : String) : String :=
  if qualifier = [] then names.className name else Text.join "." (qualifier ++ [name])

/-- The primitive type that a name denotes. -/
def primitive? : String → Option PrimitiveKind
  | "bool" => some .boolean
  | "i8" => some .byte
  | "i16" => some .short
  | "i32" | "u8" | "u16" | "u32" => some .int
  | "i64" | "u64" | "isize" | "usize" => some .long
  | "f32" => some .float
  | "f64" => some .double
  | "char" => some .char
  | _ => none

/-- The type of a path with arguments. They are boxed wherever they stand as arguments. -/
def pathDescriptor (names : Names) (qualifier : List String) (name : String)
    (args : List TypeDescriptor) : TypeDescriptor :=
  match name, args with
  | "String", [] => .string
  | "Box", [inner] => inner
  | "Option", [inner] => inner.toBoxed
  | "Vec", [item] | "VecDeque", [item] | "LinkedList", [item] =>
      .reference "java.util.List" [item.toBoxed]
  | "HashSet", [item] | "BTreeSet", [item] => .reference "java.util.Set" [item.toBoxed]
  | "HashMap", [key, value] | "BTreeMap", [key, value] =>
      .reference "java.util.Map" [key.toBoxed, value.toBoxed]
  | _, _ => .reference (names.pathName qualifier name) (args.map (·.toBoxed))

namespace FieldType

mutual

/-- The Java type of a field's type, or how a type is printed that has none. -/
def resolve (names : Names) : FieldType → Except String TypeDescriptor
  | path qualifier name args =>
      match primitive? name with
      | some kind => .ok (.primitive kind)
      | none => do return pathDescriptor names qualifier name (← resolveAll names args)
  | borrowedText => .ok .string
  | array element => do return .array (← resolve names element)
  | parenthesized inner => resolve names inner
  | unsupported spelling => .error spelling

/-- The Java types of arguments, or the first that has none. -/
def resolveAll (names : Names) : List FieldType → Except String (List TypeDescriptor)
  | [] => .ok []
  | type :: types => do return (← resolve names type) :: (← resolveAll names types)

end

/-- Whether a field of a type may be absent. -/
def isOptional : FieldType → Bool
  | path _ "Option" [_] => true
  | _ => false

end FieldType

end AdapterGen.Source
