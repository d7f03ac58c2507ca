import AdapterGen.Source.Grammar.Generics

/-!
# Types

All forms of types. The text of a type that no field may have is how it is
printed.
-/

namespace AdapterGen.Source.Grammar

open Parse (next expect expectWord accept acceptWord require)
open Lookahead (punct word)

/-! ### Functions -/

/-- The convention by which something is called, if it is written. -/
def callingConvention : Parse Unit := do
  if ← acceptWord "extern" then
    if ← next Lookahead.text then
      let _ ← Parse.text

/-- Whether a name or a placeholder comes next. -/
def startsLabel : Lookahead := Lookahead.either [Lookahead.name, word "_"]

/-- Whether the variable part of some arguments comes next. -/
def startsVariadic : Lookahead := fun trees =>
  punct "..." trees ||
    startsLabel trees && Lookahead.second (punct ":") trees && Lookahead.third (punct "...") trees

/-- Whether the mutable receiver comes next. -/
def startsMutableReceiver : Lookahead := fun trees =>
  word "mut" trees && Lookahead.second (word "self") trees

/-- The type of one argument, which may be labelled. The first one may be the receiver; a mutable
receiver is printed as it stands. -/
def functionArgument (g : Grammar) (isFirst : Bool) : Parse Unit := do
  let start ← get
  let mutable := isFirst && (← next startsMutableReceiver)
  if mutable then expectWord "mut"
  let receiver := isFirst && (← next (word "self"))
  let labelled :=
    (receiver || (← next startsLabel)) && (← next (Lookahead.second (Lookahead.only ":" ["::"])))
  if labelled then
    let _ ← Parse.anyName
    expect ":"
  if isFirst && !(labelled && receiver) && (← next startsMutableReceiver) then
    expectWord "mut"
    expectWord "self"
    Parse.asWrittenSince start
  else
    if mutable && !labelled then expectWord "self"
    else
      let _ ← g.type true
    if mutable then Parse.asWrittenSince start

/-- The types of the arguments of a function, the last of which may be variable. -/
def functionArguments (g : Grammar) : Nat → (isFirst : Bool) → Parse Unit
  | 0, _ => failure
  | fuel + 1, isFirst => do
      if ← next Lookahead.done then return
      let _ ← outerAttributes g
      if ← next startsVariadic then
        if !(← next (punct "...")) then
          let _ ← Parse.anyName
          expect ":"
        expect "..."
        let _ ← accept ","
      else
        functionArgument g isFirst
        if !(← next Lookahead.done) then
          expect ","
          functionArguments g fuel false

/-- The type of a function; whether arguments could be added to its end. -/
def functionType (g : Grammar) : Parse Bool := do
  let _ ← acceptWord "unsafe"
  callingConvention
  expectWord "fn"
  Parse.inGroup .parenthesis do
    functionArguments g ((← get).trees.length + 1) true
  returnType g false

/-! ### Bounds in the place of types -/

/-- The bounds of a value of any type that satisfies them. -/
def objectBounds (g : Grammar) (allowPlus : Bool) : Parse (List Bound) := do
  let all ← bounds allowPlus startsBound (objectBound g)
  requireTrait all
  return all

/-- The bounds of a value of some type that satisfies them. -/
def hiddenBounds (g : Grammar) (allowPlus : Bool) : Parse (List Bound) := do
  let more :=
    Lookahead.either [startsBound, Lookahead.group .bracket, word "const"]
  let all ← bounds allowPlus more g.bound
  requireTrait all
  return all

/-- Bounds that are added to a type, one after each plus sign. -/
def furtherBounds (g : Grammar) : Parse (List Bound) :=
  Parse.collect do
    if ← accept "+" then return some (← objectBound g) else return none

/-! ### Types in brackets -/

/-- What stands between parentheses. -/
inductive Parenthesized where
  | tuple
  | type (parsed : ParsedType) (printed : List Lexeme)
  | bounds (printed : List Lexeme)
  | maybeBound

/-- The inside of parentheses. -/
def parenthesizedContent (g : Grammar) : Parse Parenthesized := do
  if ← next Lookahead.done then return .tuple
  else if ← next Lookahead.lifetime then
    let (_, printed) ← Parse.withPrinted (objectBounds g true)
    return .bounds printed
  else if ← next (punct "?") then
    let bound ← traitBound g
    require (bound.form = .trait)
    return .maybeBound
  else
    let (parsed, printed) ← Parse.withPrinted (g.type true)
    if ← next Lookahead.done then return .type parsed printed
    expect ","
    let _ ← Parse.listed (g.type true)
    return .tuple

/-- Whether a type in parentheses may be the first of several bounds. -/
def TypeForm.isBound : TypeForm → Bool
  | .path p => !p.qualified
  | .bounds single _ => single
  | _ => false

/-- Whether a type is a single bound in parentheses. Those around it take their place where it is
the first of several. -/
def TypeForm.isEnclosedBound : TypeForm → Bool
  | .bounds single enclosed => single && enclosed
  | _ => false

/-- A type that begins with parentheses. -/
def parenthesizedType (g : Grammar) (allowPlus : Bool) : Parse TypeForm := do
  let (content, outer) ← Parse.captured (Parse.inGroup .parenthesis (parenthesizedContent g))
  match content with
  | .tuple =>
      Parse.emit outer
      return .other
  | .bounds printed =>
      Parse.emit outer
      return .parenthesized (.unsupported (spell printed))
  | .maybeBound =>
      Parse.emit outer
      let more ← furtherBounds g
      return .bounds more.isEmpty true
  | .type parsed printed =>
      if allowPlus && (← next (punct "+")) && TypeForm.isBound parsed.form then
        Parse.emit (if TypeForm.isEnclosedBound parsed.form then printed else outer)
        let _ ← furtherBounds g
        return .bounds false false
      else
        Parse.emit outer
        return .parenthesized parsed.type

/-- A type that begins with square brackets: elements of a fixed number, or of any. -/
def bracketedType (g : Grammar) : Parse TypeForm :=
  Parse.inGroup .bracket do
    let element ← g.type true
    if ← accept ";" then
      g.value
      return .array element.type
    else return .other

/-! ### All types -/

/-- A type that begins with a path: the path, something expanded, or bounds; whether arguments
could be added to its end. -/
def pathType (g : Grammar) (allowPlus hasLifetimes : Bool) : Parse (TypeForm × Bool) := do
  let p ← anyPath g false
  if p.qualified then return (.path p, p.last.isPlain)
  else if p.isPlain && (← next (Lookahead.only "!" ["!="])) then
    expect "!"
    let _ ← Parse.anyGroup
    return (.other, false)
  else if hasLifetimes || allowPlus && (← next (punct "+")) then
    let isLast ← next fun trees => !(allowPlus && punct "+" trees)
    let more ←
      if allowPlus then addedBounds startsBound (objectBound g) ((← get).trees.length + 1)
      else pure []
    let last := more.getLast?.getD ⟨.trait, p.last.isPlain⟩
    return (.bounds isLast false, last.extensible)
  else return (.path p, p.last.isPlain)

/-- What a reference to a type is. -/
def referenceTo (target : TypeForm) : TypeForm :=
  match target with
  | .path p =>
      if p.before.isEmpty && !p.rooted && p.last.isPlain && p.last.name = "str" then .borrowedText
      else .other
  | _ => .other

/-- Whether a form of another grammar comes next. -/
def startsForeign : Lookahead := fun trees =>
  word "builtin" trees && Lookahead.second (punct "#") trees

/-- A form of another grammar: its name and whatever is in its parentheses. -/
def foreignForm : Parse Unit := do
  expectWord "builtin"
  expect "#"
  let _ ← Parse.name
  Parse.inGroup .parenthesis Parse.everything

/-- The form of a type, and whether arguments could be added to its end. -/
def typeForm (g : Grammar) (allowPlus : Bool) : Parse (TypeForm × Bool) := do
  let start ← get
  let hasLifetimes ← boundLifetimes g
  if hasLifetimes then
    require (← next (Lookahead.either
      [startsPart, Lookahead.anyWord ["fn", "unsafe", "extern"]]))
  if ← next (Lookahead.group .parenthesis) then return (← parenthesizedType g allowPlus, false)
  else if ← next (Lookahead.anyWord ["fn", "unsafe", "extern"]) then
    return (.other, ← functionType g)
  else if ← next startsForeign then
    foreignForm
    Parse.asWrittenSince start
    return (.other, false)
  else if ← next (Lookahead.either [startsPart, punct "::", punct "<"]) then
    pathType g allowPlus hasLifetimes
  else if ← acceptWord "dyn" then
    let isPointer ← accept "*"
    let all ← objectBounds g allowPlus
    if isPointer then Parse.asWrittenSince start
    return (.other, !isPointer && areExtensible all)
  else if ← next (Lookahead.group .bracket) then return (← bracketedType g, false)
  else if ← accept "*" then
    if !(← acceptWord "const") then expectWord "mut"
    return (.other, (← g.type false).extensible)
  else if ← accept "&" then
    let _ ← Parse.acceptLifetime
    let _ ← acceptWord "mut"
    let target ← g.type false
    return (referenceTo target.form, target.extensible)
  else if ← accept "!" then return (.other, false)
  else if ← acceptWord "impl" then return (.other, areExtensible (← hiddenBounds g allowPlus))
  else if ← acceptWord "_" then return (.other, false)
  else if ← next Lookahead.lifetime then
    let all ← objectBounds g true
    return (.bounds false false, areExtensible all)
  else failure

/-- A type. -/
def parsedType (g : Grammar) (allowPlus : Bool) : Parse ParsedType := do
  let ((form, extensible), printed) ← Parse.withPrinted (typeForm g allowPlus)
  return ⟨form, form.type (spell printed), extensible⟩

end AdapterGen.Source.Grammar
