import AdapterGen.Source.Grammar.Type

/-!
# Patterns

Patterns of bindings, arms and arguments, with ranges between literals and
paths.
-/

namespace AdapterGen.Source.Grammar

open Parse (next expect expectWord accept acceptWord require)
open Lookahead (punct word)

/-! ### Alternatives -/

/-- Whether an alternative follows. -/
def startsAlternative : Lookahead := Lookahead.only "|" ["||", "|="]

/-- Alternatives after a first mark that may stand before them. -/
def alternatives (g : Grammar) : Parse PatternForm := do
  let leading ← accept "|"
  let first ← g.pattern
  let more ← Parse.collect do
    if ← next startsAlternative then
      expect "|"
      return some (← g.pattern)
    else return none
  return if leading || !more.isEmpty then .other else first

/-! ### Ranges -/

/-- The mark of a range; whether it includes its end. The old mark of such a range is printed as
the new one. -/
def rangeMark (old : Bool) : Parse Bool := do
  if ← accept "..=" then return true
  else if ← next (punct "...") then
    require old
    Parse.take 3 ⟨"..=", false⟩ false
    return true
  else
    expect ".."
    return false

/-- Where a range has no end. -/
def endsRange : Lookahead :=
  Lookahead.either
    [Lookahead.done, punct "|", punct "=", Lookahead.only ":" ["::"], punct ",", punct ";",
      word "if"]

/-- A constant in braces, which is given as it is printed without the attributes inside. -/
def constantPattern (g : Grammar) : Parse PatternForm := do
  expectWord "const"
  let bare ← Parse.inGroup .brace do
    let _ ← innerAttributes g
    let (_, printed) ← Parse.withPrinted g.statements
    return Delimiter.brace.enclose (spell printed)
  return .constant [⟨"const", false⟩, ⟨bare, false⟩]

/-- One end of a range, if it is written. -/
def rangeBound (g : Grammar) : Parse (Option PatternForm) := do
  if ← next endsRange then return none
  if ← next Lookahead.literal then
    Parse.literal
    return some .other
  else if ← next (Lookahead.either [startsPart, punct "::", punct "<"]) then
    let _ ← anyPath g true
    return some .other
  else return some (← constantPattern g)

/-- The rest of a range from its mark on, given whether a start was written. An end that is
included must be written. -/
def rangeRest (g : Grammar) (old started : Bool) : Parse PatternForm := do
  let includesEnd ← rangeMark old
  let ended := (← rangeBound g).isSome
  require (ended || !includesEnd)
  if started then return if ended then .other else .openRange
  else return if ended then .openRange else .other

/-! ### Patterns with parts -/

/-- The number of a field, as it is printed. It has to fit into 32 bits. -/
def indexLexeme? (index : Nat) : Option Lexeme :=
  if index < 4294967296 then some ⟨toString index, false⟩ else none

/-- The name or the number of a field; whether it is a name. -/
def member : Parse Bool := do
  if ← next Lookahead.name then
    let _ ← Parse.name
    return true
  else
    match (← get).trees with
    | .literal (.integer (some index)) _ :: _ =>
        match indexLexeme? index with
        | some lexeme =>
            Parse.take 1 lexeme false
            return false
        | none => failure
    | _ => failure

/-- The pattern of a field of a record. -/
def fieldPattern (g : Grammar) : Parse Unit := do
  let boxed ← acceptWord "box"
  let borrowed ← acceptWord "ref"
  let mutable ← acceptWord "mut"
  let plain := !boxed && !borrowed && !mutable
  let named ← if plain then member else do
    let _ ← Parse.name
    pure true
  if plain && (← next (punct ":")) || !named then
    expect ":"
    let _ ← alternatives g

/-- The patterns of the fields of a record, up to the mark of those left out. -/
def fieldPatterns (g : Grammar) : Parse Unit :=
  Parse.repeatWhile do
    if ← next Lookahead.done then return false
    let _ ← outerAttributes g
    if ← accept ".." then return false
    fieldPattern g
    if ← next Lookahead.done then return false
    expect ","
    return true

/-- A pattern that begins with a path. -/
def pathPattern (g : Grammar) : Parse PatternForm := do
  let p ← anyPath g true
  if !p.qualified && p.isPlain && (← next (Lookahead.only "!" ["!="])) then
    expect "!"
    let _ ← Parse.anyGroup
    return .other
  else if ← next (Lookahead.group .brace) then
    Parse.inGroup .brace (fieldPatterns g)
    return .other
  else if ← next (Lookahead.group .parenthesis) then
    let _ ← Parse.inGroup .parenthesis (Parse.listed (alternatives g))
    return .other
  else if ← next (punct "..") then rangeRest g true true
  else return .other

/-- A pattern that binds a name. -/
def namePattern (g : Grammar) : Parse PatternForm := do
  let _ ← acceptWord "ref"
  let _ ← acceptWord "mut"
  if !(← acceptWord "self") then
    let _ ← Parse.name
  if ← accept "@" then
    let _ ← g.pattern
  return .other

/-- A pattern that begins with a literal or a constant. -/
def literalPattern (g : Grammar) : Parse PatternForm := do
  match ← rangeBound g with
  | some form => if ← next (punct "..") then rangeRest g true true else return form
  | none => failure

/-- Whether a path comes next that is no binding. -/
def startsPathPattern : Lookahead := fun trees =>
  Lookahead.name trees &&
      Lookahead.second
        (Lookahead.either
          [punct "::", punct "!", Lookahead.group .brace, Lookahead.group .parenthesis,
            punct ".."]) trees ||
    word "self" trees && Lookahead.second (punct "::") trees ||
    Lookahead.either
      [punct "::", punct "<", Lookahead.anyWord ["Self", "super", "crate"]] trees

/-- A pattern without alternatives. -/
def patternForm (g : Grammar) : Parse PatternForm := do
  if ← next startsPathPattern then pathPattern g
  else if ← acceptWord "_" then return .other
  else if ← next (word "box") then
    Parse.asWritten do
      expectWord "box"
      let _ ← g.pattern
    return .asWritten
  else if ← next (Lookahead.either [punct "-", Lookahead.literal, word "const"]) then
    literalPattern g
  else if ← next (Lookahead.either
      [Lookahead.anyWord ["ref", "mut", "self"], Lookahead.name]) then
    namePattern g
  else if ← accept "&" then
    let _ ← acceptWord "mut"
    let _ ← g.pattern
    return .other
  else if ← next (Lookahead.group .parenthesis) then
    let _ ← Parse.inGroup .parenthesis (Parse.listed (alternatives g))
    return .other
  else if ← next (Lookahead.group .bracket) then
    let parts ← Parse.inGroup .bracket (Parse.listed (alternatives g))
    require (!parts.any (· matches .openRange))
    return .other
  else
    require (← next (Lookahead.only ".." ["..."]))
    rangeRest g false false

end AdapterGen.Source.Grammar
