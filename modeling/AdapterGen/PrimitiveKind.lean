/-!
# Primitive kinds

The eight primitive types of Java with their keywords and wrapper classes.
-/

namespace AdapterGen

/-- A primitive type of Java. -/
inductive PrimitiveKind where
  | boolean
  | byte
  | short
  | int
  | long
  | char
  | float
  | double
  deriving DecidableEq, Repr

namespace PrimitiveKind

/-- Every primitive kind. -/
def all : List PrimitiveKind := [boolean, byte, short, int, long, char, float, double]

theorem mem_all (kind : PrimitiveKind) : kind ∈ all := by cases kind <;> decide

/-- The keyword of a kind. -/
def keyword : PrimitiveKind → String
  | boolean => "boolean"
  | byte => "byte"
  | short => "short"
  | int => "int"
  | long => "long"
  | char => "char"
  | float => "float"
  | double => "double"

/-- The wrapper class of a kind. -/
def boxedName : PrimitiveKind → String
  | boolean => "Boolean"
  | byte => "Byte"
  | short => "Short"
  | int => "Integer"
  | long => "Long"
  | char => "Character"
  | float => "Float"
  | double => "Double"

/-- The kind a keyword names. -/
def ofKeyword? (word : String) : Option PrimitiveKind := all.find? (·.keyword == word)

/-- The package of the wrapper classes, with its dot. -/
def wrapperPackage : List Char := "java.lang.".toList

/-- A name without the wrapper package in front of it. -/
def withoutWrapperPackage (name : String) : String :=
  if wrapperPackage.isPrefixOf name.toList then
    String.ofList (name.toList.drop wrapperPackage.length)
  else name

/-- The kind whose wrapper class a simple or qualified name denotes. -/
def ofBoxedName? (name : String) : Option PrimitiveKind :=
  all.find? (·.boxedName == withoutWrapperPackage name)

theorem ofKeyword?_keyword (kind : PrimitiveKind) : ofKeyword? kind.keyword = some kind := by
  cases kind <;> decide

end PrimitiveKind

end AdapterGen
