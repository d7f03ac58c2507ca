import AdapterGen.Source.Grammar.Expression

/-!
# Statements

The statements of a block. A statement that is neither ended by a semicolon nor
by a block has to be the last one.
-/

namespace AdapterGen.Source.Grammar

open Parse (next expect expectWord accept acceptWord require)
open Lookahead (punct word)

/-- A binding. What stands for it when the pattern does not match may not follow a brace. -/
def localBinding (g : Grammar) : Parse Unit := do
  expectWord "let"
  let _ ← g.pattern
  if ← accept ":" then
    let _ ← g.type true
  if ← accept "=" then
    g.value
    if !(← get).afterBrace && (← next (word "else")) then
      expectWord "else"
      block g
  expect ";"

/-- Whether an item comes next in a block. -/
def startsItem : Lookahead := fun trees =>
  let second := fun test => Lookahead.second test trees
  let third := fun test => Lookahead.third test trees
  Lookahead.anyWord
      ["pub", "extern", "use", "fn", "mod", "type", "struct", "enum", "trait", "impl", "macro"]
      trees ||
    word "crate" trees && !second (punct "::") ||
    word "static" trees &&
      (second (word "mut") ||
        second Lookahead.name &&
          !(second (word "async") && third (Lookahead.either [word "move", punct "|"]))) ||
    word "const" trees &&
      !(second (Lookahead.either
          [Lookahead.group .brace, word "static", word "move", punct "|"]) ||
        second (word "async") && !third (Lookahead.anyWord ["unsafe", "extern", "fn"])) ||
    word "unsafe" trees && !second (Lookahead.group .brace) ||
    word "async" trees && second (Lookahead.anyWord ["unsafe", "extern", "fn"]) ||
    word "union" trees && second Lookahead.name ||
    word "auto" trees && second (word "trait") ||
    word "default" trees && second (Lookahead.anyWord ["unsafe", "impl"])

/-- The trees after a path without arguments, if one comes next that is expanded. -/
def afterExpandedPath : Parse (Option (List TokenTree)) := do
  match plainPath startsPart (← get) with
  | some (_, after) => return if punct "!" after.trees then some after.trees else none
  | none => return none

/-- Whether something expanded in braces is a statement, given the trees after its path. -/
def isBracedStatement (trees : List TokenTree) : Bool :=
  Lookahead.second (Lookahead.group .brace) trees &&
    !Lookahead.third (Lookahead.either [Lookahead.only "." [".."], punct "?"]) trees

/-- Whether something expanded defines a name, given the trees after its path. -/
def isDefinition (trees : List TokenTree) : Bool :=
  Lookahead.second (Lookahead.either [Lookahead.name, word "try"]) trees

/-- Something expanded in braces, with a semicolon that may follow it. -/
def expandedStatement : Parse Unit := do
  let _ ← plainPath startsPart
  expect "!"
  let _ ← Parse.anyGroup
  let _ ← accept ";"

/-- A statement that is an expression, with the attributes in front of it; whether another one may
follow it. -/
def expressionStatement (g : Grammar) (attributes : List Lexeme) : Parse Bool := do
  let e ← g.leadingExpr
  Parse.emit (e.withStatementAttributes attributes).printed
  let ended ← accept ";"
  return ended || e.endsStatement

/-- A statement; whether another one may follow it. -/
def statement (g : Grammar) : Parse Bool := do
  let start ← get
  let (attributes, lexemes) ← Parse.captured (outerAttributes g)
  let expanded ← afterExpandedPath
  let defines := expanded.any isDefinition
  if !defines && expanded.any isBracedStatement then
    Parse.emit lexemes
    expandedStatement
    return true
  else if ← next (word "let") then
    Parse.emit lexemes
    localBinding g
    return true
  else if defines || (← next startsItem) then
    Parse.emit lexemes
    let _ ← g.item start attributes
    return true
  else expressionStatement g lexemes

/-- All statements that are left. -/
def allStatements (g : Grammar) : Parse Unit :=
  Parse.repeatWhile do
    Parse.repeatWhile (accept ";")
    if ← next Lookahead.done then return false
    let mayFollow ← statement g
    if ← next Lookahead.done then return false
    require mayFollow
    return true

end AdapterGen.Source.Grammar
