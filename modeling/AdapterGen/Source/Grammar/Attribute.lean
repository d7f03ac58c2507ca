import AdapterGen.Source.Grammar

/-!
# Attributes

Attributes before and inside of what they belong to.
-/

namespace AdapterGen.Source.Grammar

open Parse (next expect expectWord accept acceptWord require)
open Lookahead (punct word)

/-- The keywords that may be parts of a path. -/
def pathWords : List String := ["super", "self", "Self", "crate"]

/-- Whether a part of a path comes next. -/
def startsPart : Lookahead := Lookahead.either [Lookahead.name, Lookahead.anyWord pathWords]

/-- The names of a path without arguments, given which names may be parts. -/
def plainNames (part : Lookahead) : Parse (List String) := do
  require (← next part)
  let first ← Parse.anyName
  let more ← Parse.collect do
    if !(← accept "::") then return none
    require (← next part)
    return some (← Parse.anyName)
  return first :: more

/-- A path without arguments: whether it is rooted, and its names. -/
def plainPath (part : Lookahead) : Parse (Bool × List String) := do
  let rooted ← accept "::"
  return (rooted, ← plainNames part)

/-- Whether a group in any brackets comes next. -/
def startsGroup : Lookahead :=
  Lookahead.either
    [Lookahead.group .parenthesis, Lookahead.group .bracket, Lookahead.group .brace]

/-- The value of an attribute: a literal that ends it, or an expression that does not begin with
an attribute. -/
def attributeValue (g : Grammar) (stop : Lookahead) : Parse Unit := do
  let trees := (← get).trees
  let afterLiteral :=
    match trees with
    | .punct '-' _ :: _ :: rest => rest
    | _ :: rest => rest
    | [] => []
  if Lookahead.literal trees && stop afterLiteral then Parse.literal
  else
    require (!(punct "#" trees && Lookahead.second (Lookahead.group .bracket) trees))
    g.value

/-- What follows the path of an attribute. -/
def attributeBody (g : Grammar) (stop : Lookahead) : Parse AttributeBody := do
  if ← next startsGroup then
    let (_, trees) ← Parse.anyGroup
    return .list trees
  else if ← accept "=" then
    attributeValue g stop
    return .value
  else return .word

/-- The inside of the brackets of an attribute. -/
def attributeContent (g : Grammar) : Parse Attribute := do
  let (rooted, path) ←
    if ← acceptWord "unsafe" then pure (false, ["unsafe"]) else plainPath startsPart
  return ⟨rooted, path, ← attributeBody g Lookahead.done⟩

/-- One attribute in front of what it belongs to. -/
def outerAttribute (g : Grammar) : Parse Attribute := do
  expect "#"
  Parse.inGroup .bracket (attributeContent g)

/-- The attributes in front of something. -/
def outerAttributes (g : Grammar) : Parse (List Attribute) :=
  Parse.collect do
    if ← next (punct "#") then return some (← outerAttribute g) else return none

/-- The attributes of something at the beginning of its inside. -/
def innerAttributes (g : Grammar) : Parse (List Attribute) :=
  Parse.collect do
    if ← next (fun trees => punct "#" trees && Lookahead.second (punct "!") trees) then
      expect "#"
      expect "!"
      return some (← Parse.inGroup .bracket (attributeContent g))
    else return none

end AdapterGen.Source.Grammar
