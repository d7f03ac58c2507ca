import AdapterGen.Source.Grammar.AngleList
import AdapterGen.Source.Grammar.Attribute

/-!
# Paths

Paths with their arguments, and paths that begin in a type.
-/

namespace AdapterGen.Source.Grammar

open Parse (next expect expectWord accept acceptWord require)
open Lookahead (punct word)

/-- The inside of a block that may begin with attributes of its own. -/
def blockContent (g : Grammar) : Parse Unit := do
  let _ ← innerAttributes g
  g.statements

/-- A constant in the place of a type argument: a literal, a name or a block. -/
def constArgument (g : Grammar) : Parse Unit := do
  if ← next Lookahead.literal then Parse.literal
  else if ← next Lookahead.name then
    let _ ← Parse.name
  else Parse.inGroup .brace (blockContent g)

/-- A bound that is not a list of captured parameters. -/
def plainBound (g : Grammar) : Parse Bound := do
  let bound ← g.bound
  require (bound.form ≠ .captures)
  return bound

/-- A bound that is no list of captured parameters and does not hold at compile time. -/
def objectBound (g : Grammar) : Parse Bound := do
  let bound ← plainBound g
  require (bound.form ≠ .constTrait)
  return bound

/-- Whether a constant comes next that needs no braces around it, or has them. -/
def startsConst : Lookahead := Lookahead.either [Lookahead.literal, Lookahead.group .brace]

/-- An argument between angle brackets: whether it is a lifetime, and the type that it is. A
single name may be set equal to a type or a constant, or bounded. -/
def pathArgument (g : Grammar) : Parse (Bool × Option FieldType) := do
  if ← next (fun trees =>
      Lookahead.lifetime trees && !Lookahead.second (punct "+") trees) then
    Parse.lifetime
    return (true, none)
  else if ← next startsConst then
    constArgument g
    return (false, none)
  else
    let parsed ← g.type true
    let single :=
      match parsed.form with
      | .path p => p.isSingle
      | _ => false
    if !single then return (false, some parsed.type)
    else if ← accept "=" then
      if ← next startsConst then constArgument g
      else
        let _ ← g.type true
      return (false, none)
    else if ← accept ":" then
      let _ ← Parse.chained "+" (Lookahead.either [punct ",", punct ">"]) (plainBound g)
      return (false, none)
    else return (false, some parsed.type)

/-- Arguments in angle brackets, with or without a double colon in front. -/
def angledArguments (g : Grammar) : Parse (List (Option FieldType)) := do
  let _ ← accept "::"
  angleList (pathArgument g)

/-- The type that a function gives, if it is written; whether arguments could be added to its
end. -/
def returnType (g : Grammar) (allowPlus : Bool) : Parse Bool := do
  if ← accept "->" then return (← g.type allowPlus).extensible
  else return false

/-- Arguments in parentheses and the type that is given for them; whether arguments could be added
to its end. -/
def calledArguments (g : Grammar) : Parse Bool := do
  let _ ← Parse.inGroup .parenthesis (Parse.listed (g.type true))
  returnType g false

/-- Whether a double colon comes next with something behind it. -/
def colonsBefore (test : Lookahead) : Lookahead := fun trees =>
  punct "::" trees && Lookahead.third test trees

/-- Whether arguments in parentheses come next, with or without a double colon in front. -/
def startsCall : Lookahead :=
  Lookahead.either
    [Lookahead.group .parenthesis, colonsBefore (Lookahead.group .parenthesis)]

/-- A part of a path. In an expression only a double colon brings arguments. Elsewhere arguments in
parentheses take the place of empty angle brackets. -/
def segment (g : Grammar) (inExpr : Bool) : Parse Segment := do
  if ← next (Lookahead.anyWord ["super", "self", "crate", "try"]) then
    return ⟨← Parse.anyName, .none⟩
  let name ← if ← next (word "Self") then Parse.anyName else Parse.name
  let angled ← next fun trees =>
    !inExpr && Lookahead.only "<" ["<=", "<<="] trees || colonsBefore (punct "<") trees
  if !angled then return ⟨name, .none⟩
  let (arguments, printed) ← Parse.captured (angledArguments g)
  if !inExpr && arguments.isEmpty && (← next startsCall) then return ⟨name, .none⟩
  Parse.emit printed
  return ⟨name, .angled (arguments.filterMap id)⟩

/-- A path with the parts that follow; arguments in parentheses are no part. -/
def pathRest (g : Grammar) (inExpr : Bool) (path : Path) : Parse Path := do
  let more ← Parse.collect do
    if ← next (fun trees =>
        punct "::" trees && !Lookahead.third (Lookahead.group .parenthesis) trees) then
      expect "::"
      return some (← segment g inExpr)
    else return none
  return more.foldl Path.push path

/-- A path. -/
def path (g : Grammar) (inExpr : Bool) : Parse Path := do
  let rooted ← accept "::"
  pathRest g inExpr { rooted := rooted, last := ← segment g inExpr }

/-- A path that may begin in a type, which may be seen as a trait. -/
def anyPath (g : Grammar) (inExpr : Bool) : Parse Path := do
  if ← accept "<" then
    let _ ← g.type true
    let trait ← if ← acceptWord "as" then some <$> path g false else pure none
    expect ">"
    expect "::"
    let first ← segment g inExpr
    let more ← Parse.collect do
      if ← accept "::" then return some (← segment g inExpr) else return none
    let start : Path :=
      match trait with
      | some base => { base.push first with qualified := true }
      | none => { qualified := true, rooted := true, last := first }
    return more.foldl Path.push start
  else path g inExpr

end AdapterGen.Source.Grammar
