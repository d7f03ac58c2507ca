import AdapterGen.Source.TokenTree

/-!
# Syntax of a source

The parts of a source that describe targets: records, the modules that hold
them, and enumerations, each with attributes. Everything else is one case.
-/

namespace AdapterGen.Source

/-- The type of a field. -/
inductive FieldType where
  /-- A path: the segments before the last, the last, and the type arguments of the last. -/
  | path (qualifier : List String) (name : String) (args : List FieldType)
  /-- A borrowed text. -/
  | borrowedText
  | array (element : FieldType)
  | parenthesized (inner : FieldType)
  /-- Any other type, as it is printed. -/
  | unsupported (spelling : String)

/-- What follows the path of an attribute. -/
inductive AttributeBody where
  | word
  | list (trees : List TokenTree)
  | value

/-- An attribute: the segments of its path, whether the path is rooted, and the rest. -/
structure Attribute where
  rooted : Bool
  path : List String
  body : AttributeBody

/-- Whether the path of an attribute is one name. -/
def Attribute.named (name : String) (self : Attribute) : Bool :=
  !self.rooted && self.path == [name]

/-- A named field of a record. -/
structure RecordField where
  attributes : List Attribute
  name : String
  type : FieldType

/-- The fields of a record. -/
inductive RecordFields where
  | named (fields : List RecordField)
  | positional
  | unit

/-- A record. -/
structure Record where
  attributes : List Attribute
  isPublic : Bool
  name : String
  fields : RecordFields

/-- An item of a source. -/
inductive Item where
  | record (record : Record)
  /-- A module with the items in it; one kept elsewhere has none here. -/
  | submodule (attributes : List Attribute) (items : List Item)
  | enumeration (attributes : List Attribute)
  | other

end AdapterGen.Source
