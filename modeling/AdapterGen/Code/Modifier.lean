import AdapterGen.Text.Segments

/-!
# Modifiers

Java declaration modifiers in their canonical order.
-/

namespace AdapterGen.Code

/-- A modifier of a declaration, in canonical order. -/
inductive Modifier where
  | isPublic
  | isProtected
  | isPrivate
  | isAbstract
  | isStatic
  | isFinal
  deriving DecidableEq, Repr

namespace Modifier

/-- Every modifier, in canonical order. -/
def all : List Modifier :=
  [isPublic, isProtected, isPrivate, isAbstract, isStatic, isFinal]

/-- The keyword of a modifier. -/
def keyword : Modifier → String
  | isPublic => "public"
  | isProtected => "protected"
  | isPrivate => "private"
  | isAbstract => "abstract"
  | isStatic => "static"
  | isFinal => "final"

/-- The modifier a keyword names. -/
def ofKeyword? (word : String) : Option Modifier := all.find? (·.keyword == word)

/-- The keywords of some modifiers, each once, in canonical order, each with a space behind. -/
def render (modifiers : List Modifier) : String :=
  Text.concat ((all.filter (· ∈ modifiers)).map (·.keyword ++ " "))

end Modifier

end AdapterGen.Code
