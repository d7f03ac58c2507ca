import AdapterGen.Text.Segments
import AdapterGen.Text.Uppercase

/-!
# Names

Dotted names of classes and packages, and the camel case of underscored names.
-/

namespace AdapterGen.Naming

/-- The characters after the last dot. -/
def lastSegment (cs : List Char) : List Char :=
  (cs.reverse.takeWhile (· != '.')).reverse

/-- The characters before the last dot, if there is one. -/
def beforeLastDot? (cs : List Char) : Option (List Char) :=
  match cs.reverse.dropWhile (· != '.') with
  | [] => none
  | _ :: before => some before.reverse

/-- The last segment of a dotted name. -/
def simpleName (qualified : String) : String := String.ofList (lastSegment qualified.toList)

/-- What stands before the last dot, if there is one. -/
def packageOf? (qualified : String) : Option String :=
  (beforeLastDot? qualified.toList).map String.ofList

/-- Joins a package and a simple name; the empty package is the default one. -/
def qualify (package simple : String) : String :=
  if package = "" then simple else package ++ "." ++ simple

/-- Qualifies by a package when there is one. -/
def qualify? (package : Option String) (simple : String) : String :=
  match package with
  | some package => qualify package simple
  | none => simple

/-- Camel case, scanned with a flag that asks for a capital and the result so far reversed. -/
def camelScan : Bool → List Char → List Char → List Char
  | _, out, [] => out.reverse
  | capital, out, c :: rest =>
      if c = '_' then camelScan (!out.isEmpty) out rest
      else if capital then camelScan false ((Text.uppercase c).reverse ++ out) rest
      else camelScan capital (c :: out) rest

/-- Joins the segments of an underscored name, each after the first with a capital. -/
def camelCase (s : String) : String := String.ofList (camelScan false [] s.toList)

end AdapterGen.Naming
