import AdapterGen.Source.Grammar.Path

/-!
# Generic parameters

Parameters in angle brackets, the bounds on types, and the clauses that state
bounds apart from the parameters.
-/

namespace AdapterGen.Source.Grammar

open Parse (next expect expectWord accept acceptWord require)
open Lookahead (punct word)

/-! ### Parameters -/

/-- Bounds after a colon, if there is one; the colon is printed only before bounds. Gives whether
there is a colon. -/
def optionalBounds {α : Type} (bounds : Parse (List α)) : Parse Bool := do
  if ← next (punct ":") then
    let _ ← Parse.printedUnlessEmpty do
      expect ":"
      bounds
    return true
  else return false

/-- A parameter after its attributes: a lifetime, a type or a constant. Gives whether it is a
lifetime. -/
def genericParameterRest (g : Grammar) (unnamed : Bool) : Parse Bool := do
  if ← next Lookahead.lifetime then
    Parse.lifetime
    let stop := Lookahead.either [Lookahead.done, punct ",", punct ">"]
    let _ ← optionalBounds (Parse.chained "+" stop Parse.lifetime)
    return true
  if ← next Lookahead.name then
    let _ ← Parse.name
    let stop := Lookahead.either [Lookahead.done, punct ",", punct ">", punct "="]
    let _ ← optionalBounds (Parse.chained "+" stop (plainBound g))
    if ← accept "=" then
      let _ ← g.type true
  else if ← acceptWord "const" then
    let _ ← Parse.name
    expect ":"
    let _ ← g.type true
    if ← accept "=" then constArgument g
  else
    require unnamed
    expectWord "_"
  return false

/-- A parameter with its attributes; whether it is a lifetime. -/
def genericParameter (g : Grammar) (unnamed : Bool) : Parse Bool := do
  let _ ← outerAttributes g
  genericParameterRest g unnamed

/-- The generic parameters of an item, which are printed only if there are any. Gives whether the
brackets are there. -/
def genericParameters (g : Grammar) : Parse Bool := do
  if ← next (punct "<") then
    let _ ← Parse.printedUnlessEmpty <| angleList do
      return (← genericParameter g true, ())
    return true
  else return false

/-- Whether generic parameters come next, rather than a path that begins in a type. -/
def startsGenerics : Lookahead := fun trees =>
  punct "<" trees &&
    (Lookahead.second (Lookahead.either [punct ">", punct "#", word "const"]) trees ||
      Lookahead.second (Lookahead.either [Lookahead.lifetime, Lookahead.name]) trees &&
        Lookahead.third
          (Lookahead.either [Lookahead.only ":" ["::"], punct ",", punct ">", punct "="]) trees)

/-- The lifetimes for which something holds, if they are written. -/
def boundLifetimes (g : Grammar) : Parse Bool := do
  if ← acceptWord "for" then
    expect "<"
    let _ ← Parse.separated "," (punct ">") (genericParameter g false)
    expect ">"
    return true
  else return false

/-! ### Bounds -/

/-- The list of captured parameters after its keyword. -/
def capturedParameters : Parse Unit := do
  let _ ← angleList do
    if ← Parse.acceptLifetime then return (true, ())
    if !(← acceptWord "Self") then
      let _ ← Parse.name
    return (false, ())

/-- Whether a bound is marked to hold at compile time. -/
def constMark : Parse Bool := do
  if ← next (Lookahead.group .bracket) then
    Parse.inGroup .bracket (expectWord "const")
    return true
  else acceptWord "const"

/-- A bound that names a trait. Lifetimes for which it holds do not go with a question mark. -/
def traitBound (g : Grammar) : Parse Bound := do
  let lifetimes ← boundLifetimes g
  let form := if ← constMark then BoundForm.constTrait else .trait
  if ← accept "?" then require (!lifetimes)
  let p ← path g false
  if p.last.isPlain && (← next startsCall) then
    let _ ← Parse.unprinted (accept "::")
    return ⟨form, ← calledArguments g⟩
  else return ⟨form, p.last.isPlain⟩

/-- A bound that names a trait, in parentheses. -/
def enclosedBound (g : Grammar) : Parse Bound := do
  let (bound, endsInBrace) ← Parse.inGroup .parenthesis do
    let bound ← traitBound g
    return (bound, (← get).afterBrace)
  modify fun cursor => { cursor with afterBrace := endsInBrace }
  return bound

/-- One bound: a lifetime, a list of captured parameters, or a trait with or without parentheses.
One that holds at compile time is printed as it stands. -/
def parsedBound (g : Grammar) : Parse Bound := do
  if ← Parse.acceptLifetime then return ⟨.lifetime, false⟩
  else if ← acceptWord "use" then
    capturedParameters
    return ⟨.captures, false⟩
  else
    let start ← get
    let bound ←
      if ← next (Lookahead.group .parenthesis) then enclosedBound g else traitBound g
    if bound.form = .constTrait then
      Parse.asWrittenSince start
      return { bound with extensible := false }
    else return bound

/-- Whether another bound may follow a plus sign. -/
def startsBound : Lookahead :=
  Lookahead.either
    [Lookahead.anyName, punct "::", punct "?", Lookahead.lifetime, Lookahead.group .parenthesis]

/-- Bounds after plus signs, the last of which may stand alone. -/
def addedBounds (more : Lookahead) (bound : Parse Bound) : Nat → Parse (List Bound)
  | 0 => failure
  | fuel + 1 => do
      if !(← accept "+") then return []
      if ← next more then return (← bound) :: (← addedBounds more bound fuel)
      else return []

/-- Bounds with plus signs between them. Only the first is taken where none may be added. -/
def bounds (allowPlus : Bool) (more : Lookahead) (bound : Parse Bound) : Parse (List Bound) := do
  let first ← bound
  if !allowPlus then return [first]
  return first :: (← addedBounds more bound ((← get).trees.length + 1))

/-- Fails unless some bound is a trait. -/
def requireTrait (bounds : List Bound) : Parse Unit :=
  require (bounds.any fun b => b.form = .trait || b.form = .constTrait)

/-- Whether arguments could be added to the end of some bounds. -/
def areExtensible (bounds : List Bound) : Bool := bounds.getLast?.any (·.extensible)

/-! ### Where clauses -/

/-- Where a list of predicates or bounds ends, given what may not begin with a colon. -/
def endsWhere : Lookahead :=
  Lookahead.either
    [Lookahead.done, Lookahead.group .brace, punct ",", punct ";", Lookahead.only ":" ["::"],
      punct "="]

/-- One predicate on a lifetime or on a type. -/
def wherePredicate (g : Grammar) : Parse Unit := do
  if ← next (fun trees =>
      Lookahead.lifetime trees && Lookahead.second (punct ":") trees) then
    Parse.lifetime
    expect ":"
    let _ ← Parse.chained "+" (Lookahead.either [endsWhere, punct ":"]) Parse.lifetime
  else
    let _ ← boundLifetimes g
    let _ ← g.type true
    expect ":"
    let _ ← Parse.chained "+" endsWhere (plainBound g)

/-- A where clause, which is printed only if it states anything. Gives whether it is there. -/
def whereClause (g : Grammar) : Parse Bool := do
  if ← next (word "where") then
    let _ ← Parse.printedUnlessEmpty do
      expectWord "where"
      require (!(← next startsGenerics))
      Parse.chained "," endsWhere (wherePredicate g)
    return true
  else return false

end AdapterGen.Source.Grammar
