import AdapterGen.Source.Grammar.Pattern

/-!
# Expressions

Operands, what may follow them, and operators by how tightly they bind.
-/

namespace AdapterGen.Source.Grammar

open Parse (next expect expectWord accept acceptWord require captured unprinted)
open Lookahead (punct word)

/-! ### Operators -/

/-- The operator that comes next. -/
def nextOperator : Parse (Option Operator) := do
  let trees := (← get).trees
  return Operator.all.find? (punct ·.text trees)

/-- Whether the mark of an assignment comes next. -/
def startsAssignment : Lookahead := Lookahead.only "=" ["=>"]

/-- How tightly what comes next binds. -/
def nextPrecedence : Parse Precedence := do
  match ← nextOperator with
  | some operator => return operator.precedence
  | none =>
      if ← next startsAssignment then return .assign
      else if ← next (punct "..") then return .range
      else if ← next (word "as") then return .cast
      else return .lowest

/-- Extends an operand by what binds more tightly than the operator before it, or as tightly when
it assigns. It stops when nothing is taken. -/
def extendOperand (g : Grammar) (allowRecord : Bool) (before : Precedence) :
    Nat → Expression → Parse Expression
  | 0, _ => failure
  | fuel + 1, e => do
      let following ← nextPrecedence
      if before < following || following = before && before = .assign then
        let left := (← get).trees.length
        let extended ← g.operators allowRecord following e
        if (← get).trees.length == left then return extended
        extendOperand g allowRecord before fuel extended
      else return e

/-- The right operand of an operator. -/
def rightOperand (g : Grammar) (allowRecord : Bool) (before : Precedence) : Parse Expression := do
  let e ← g.operand allowRecord
  extendOperand g allowRecord before ((← get).trees.length + 1) e

/-- Where a range has no end in an expression. -/
def endsRangeExpr (allowRecord : Bool) : Lookahead :=
  Lookahead.either
    ([Lookahead.done, punct ",", punct ";", Lookahead.only "." [".."], punct "?", punct "=>",
        punct "=", punct "+", punct "/", punct "%", punct "^", punct ">", punct "<=", punct "!=",
        punct "-=", punct "*=", punct "&=", punct "|=", punct "<<=", word "as"] ++
      if allowRecord then [] else [Lookahead.group .brace])

/-- A range from its mark on, given its start. -/
def rangeExpr (g : Grammar) (allowRecord : Bool) (start : Option Expression) :
    Parse Expression := do
  let includesEnd ← unprinted (rangeMark false)
  let mark : Lexeme := ⟨if includesEnd then "..=" else "..", false⟩
  if includesEnd || !(← next (endsRangeExpr allowRecord)) then
    return .range start mark (some (← rightOperand g allowRecord .range))
  else return .range start mark none

/-- Fails after a cast where what follows would belong to the operand. -/
def requireNoTrailer : Parse Unit := do
  require (!(← next (Lookahead.either
    [Lookahead.only "." [".."], punct "?", Lookahead.group .bracket,
      Lookahead.group .parenthesis])))

/-- Operators after an operand that bind at least as tightly as asked. Comparisons do not chain,
and a range is no operand. -/
def operatorsFrom (g : Grammar) (allowRecord : Bool) (least : Precedence) :
    Nat → Expression → Parse Expression
  | 0, _ => failure
  | fuel + 1, left => do
      if left.isRange then return left
      match ← nextOperator with
      | some operator =>
          if operator.precedence < least then return left
          require (!(operator.precedence = .compare && left.form = .comparison))
          unprinted (expect operator.text)
          let right ← rightOperand g allowRecord operator.precedence
          operatorsFrom g allowRecord least fuel (.binary left operator right)
      | none =>
          if least ≤ .assign && (← next startsAssignment) then
            unprinted (expect "=")
            let right ← rightOperand g allowRecord .assign
            operatorsFrom g allowRecord least fuel (.binary left .assignment right)
          else if least ≤ .range && (← next (punct "..")) then
            rangeExpr g allowRecord (some left)
          else if least ≤ .cast && (← next (word "as")) then
            unprinted (expectWord "as")
            let (parsed, type) ← captured (g.type false)
            requireNoTrailer
            operatorsFrom g allowRecord least fuel (.cast left type parsed.extensible)
          else return left

/-- Operators after an operand that bind at least as tightly as asked. -/
def operatorsAfter (g : Grammar) (allowRecord : Bool) (least : Precedence) (left : Expression) :
    Parse Expression := do
  operatorsFrom g allowRecord least ((← get).trees.length + 1) left

/-! ### What follows an operand -/

/-- The values of a call. -/
def callArguments (g : Grammar) : Parse Unit := do
  let _ ← Parse.inGroup .parenthesis (Parse.listed g.value)

/-- The index that the part of a number beside a point is. -/
def partIndex? (part : List Char) : Option Lexeme :=
  if part.isEmpty || !part.all (fun c => c.isDigit || c == '_') then none
  else
    indexLexeme?
      ((part.filter Char.isDigit).foldl (fun n c => n * 10 + (c.toNat - '0'.toNat)) 0)

/-- The characters before each point and after the last one. -/
def pointParts : List Char → List (List Char)
  | [] => [[]]
  | c :: rest =>
      if c == '.' then [] :: pointParts rest
      else
        match pointParts rest with
        | part :: parts => (c :: part) :: parts
        | [] => [[c]]

/-- The indices that a number with a point stands for, with points between them. One whose last
point has no digits after it needs another member. -/
def indexPath? (text : String) : Option (List Lexeme × Bool) := do
  let parts := pointParts text.toList
  let complete := parts.getLast? ≠ some []
  let indices ← (if complete then parts else parts.dropLast).mapM partIndex?
  let point : Lexeme := ⟨".", false⟩
  return (indices.intersperse point ++ if complete then [] else [point], complete)

/-- Indices that are spelled as a number with a point, if one comes next; whether they are
complete. -/
def indexPath : Parse Bool := do
  match (← get).trees with
  | .literal .float text :: _ =>
      let _ ← unprinted Parse.literalToken
      match indexPath? text with
      | some (lexemes, complete) =>
          Parse.emit lexemes
          return complete
      | none => failure
  | _ => return false

/-- A field, a method or a wait after its point. -/
def selection (g : Grammar) : Parse Unit := do
  if ← indexPath then return
  if ← acceptWord "await" then return
  if ← member then
    let generic ← next (punct "::")
    if generic then
      let _ ← angledArguments g
    if generic || (← next (Lookahead.group .parenthesis)) then callArguments g

/-- Calls, indices, selections and propagated failures after an operand. -/
def trailers (g : Grammar) : Nat → Expression → Parse Expression
  | 0, _ => failure
  | fuel + 1, e => do
      if ← next (Lookahead.group .parenthesis) then
        let (_, call) ← captured (callArguments g)
        trailers g fuel (e.followedBy call)
      else if !e.isRange && (← next (Lookahead.only "." [".."])) then
        let (_, selected) ← captured do
          expect "."
          selection g
        trailers g fuel (e.followedBy selected)
      else if ← next (Lookahead.group .bracket) then
        let (_, index) ← captured (Parse.inGroup .bracket g.value)
        trailers g fuel (e.followedBy index)
      else if !e.isRange && (← next (punct "?")) then
        let (_, mark) ← captured (expect "?")
        trailers g fuel (e.followedBy mark)
      else return e

/-- What follows an operand. -/
def withTrailers (g : Grammar) (e : Expression) : Parse Expression := do
  trailers g ((← get).trees.length + 1) e

/-! ### Control flow -/

/-- A block in braces. -/
def block (g : Grammar) : Parse Unit := Parse.inGroup .brace g.statements

/-- A block in braces that may begin with attributes of its own. -/
def attributedBlock (g : Grammar) : Parse Unit := Parse.inGroup .brace (blockContent g)

/-- Conditions with their blocks, and the block for when none holds. -/
def conditional (g : Grammar) : Parse Unit :=
  Parse.repeatWhile do
    expectWord "if"
    g.condition
    block g
    if !(← acceptWord "else") then return false
    if ← next (word "if") then return true
    block g
    return false

/-- A choice after its attributes. -/
def armRest (g : Grammar) : Parse Unit := do
  let _ ← alternatives g
  if ← acceptWord "if" then g.value
  expect "=>"
  let body ← g.leadingExpr
  Parse.emit body.printed
  if body.form ≠ .block && !(← next Lookahead.done) then expect ","
  else
    let _ ← accept ","

/-- A choice by patterns. -/
def choice (g : Grammar) : Parse Unit := do
  expectWord "match"
  g.condition
  Parse.inGroup .brace do
    let _ ← innerAttributes g
    let _ ← Parse.upTo Lookahead.done do
      let _ ← outerAttributes g
      armRest g

/-- A loop, which begins with its keyword. -/
def repetition (g : Grammar) : Parse Unit := do
  if ← acceptWord "while" then g.condition
  else if ← acceptWord "for" then
    let _ ← alternatives g
    expectWord "in"
    g.condition
  else expectWord "loop"
  attributedBlock g

/-- A loop or a block after its label. -/
def labelled (g : Grammar) : Parse Unit := do
  Parse.lifetime
  expect ":"
  if ← next (Lookahead.group .brace) then attributedBlock g else repetition g

/-- Whether the parameters of a closure come next. -/
def startsClosureParameters : Lookahead := fun trees =>
  word "for" trees && startsGenerics (Lookahead.skip trees)

/-- The forms that begin with a keyword and end in a block, if one of them comes next; whether it
has a label. -/
def blockForm (g : Grammar) : Parse (Option Bool) := do
  let trees := (← get).trees
  let beforeBrace := Lookahead.second (Lookahead.group .brace) trees
  if word "if" trees then
    conditional g
    return some false
  else if Lookahead.anyWord ["while", "loop"] trees ||
      word "for" trees && !startsClosureParameters trees then
    repetition g
    return some false
  else if word "match" trees then
    choice g
    return some false
  else if word "try" trees && beforeBrace then
    expectWord "try"
    block g
    return some false
  else if word "unsafe" trees || word "const" trees && beforeBrace then
    let _ ← Parse.anyName
    attributedBlock g
    return some false
  else if Lookahead.group .brace trees then
    attributedBlock g
    return some false
  else if Lookahead.lifetime trees then
    labelled g
    return some true
  else return none

/-- A form that ends in a block, if one comes next. -/
def blockExpr (g : Grammar) : Parse (Option Expression) := do
  match ← captured (blockForm g) with
  | (some labelled, printed) =>
      return some { form := .block, printed := printed, leadsLabel := labelled }
  | (none, _) => return none

/-! ### Closures and jumps -/

/-- An argument of a closure. Without a type, the attributes before a pattern of another grammar are
not printed, and those before a constant take the place of the attributes inside. -/
def closureArgument (g : Grammar) : Parse Unit := do
  let (_, attributes) ← captured (outerAttributes g)
  let (form, printed) ← captured g.pattern
  if ← next (punct ":") then
    Parse.emit (attributes ++ printed)
    expect ":"
    let _ ← g.type true
  else
    Parse.emit <|
      match form with
      | .asWritten => printed
      | .constant bare => attributes ++ bare
      | _ => attributes ++ printed

/-- A closure up to its body; whether the type is written that it gives. -/
def closureHead (g : Grammar) : Parse Bool := do
  let _ ← boundLifetimes g
  let _ ← acceptWord "const"
  let _ ← acceptWord "static"
  let _ ← acceptWord "async"
  let _ ← acceptWord "move"
  expect "|"
  let _ ← Parse.separated "," (punct "|") (closureArgument g)
  expect "|"
  if ← accept "->" then
    let _ ← g.type true
    return true
  else return false

/-- A closure. -/
def closure (g : Grammar) (allowRecord : Bool) : Parse Expression := do
  let (returns, head) ← captured (closureHead g)
  if returns then
    let (_, body) ← captured (block g)
    return { printed := head ++ body }
  else return .ending head (← g.expr allowRecord)

/-- Whether an expression may begin here. -/
def startsExpr : Lookahead := fun trees =>
  Lookahead.anyName trees && !word "as" trees ||
    Lookahead.either
      [Lookahead.group .parenthesis, Lookahead.group .bracket, Lookahead.group .brace,
        Lookahead.literal, Lookahead.only "!" ["!="], Lookahead.only "-" ["-=", "->"],
        Lookahead.only "*" ["*="], Lookahead.only "|" ["|="], Lookahead.only "&" ["&="],
        punct "..", Lookahead.only "<" ["<=", "<<="], punct "::", Lookahead.lifetime, punct "#"]
      trees

/-- The value that a jump takes along, if there is one. -/
def jumpValue (g : Grammar) (allowed : Bool) : Parse (Option Expression) := do
  if allowed && (← next startsExpr) then return some (← g.expr true) else return none

/-- A jump out of a loop. -/
def breakExpr (g : Grammar) (allowRecord : Bool) : Parse Expression := do
  let (labelled, head) ← captured do
    expectWord "break"
    Parse.acceptLifetime
  if labelled then require (!(← next (punct ":")))
  let inBraces ← next (Lookahead.group .brace)
  return .jump head labelled (← jumpValue g (allowRecord || !inBraces))

/-- A jump out of a function. -/
def returnExpr (g : Grammar) : Parse Expression := do
  let (_, head) ← captured Parse.anyName
  match ← jumpValue g true with
  | some value => return .ending head value
  | none => return { printed := head }

/-- A pattern that is matched with a value. -/
def bindingExpr (g : Grammar) (allowRecord : Bool) : Parse Expression := do
  let (_, head) ← captured do
    expectWord "let"
    let _ ← alternatives g
    expect "="
  let operand ← g.operand allowRecord
  return .ending head (← g.operators allowRecord .compare operand)

/-! ### Operands -/

/-- The value of a field of a record; a name alone stands for itself. -/
def fieldValue (g : Grammar) : Parse Unit := do
  let _ ← outerAttributes g
  let named ← member
  if !named || (← next (punct ":")) then
    expect ":"
    g.value

/-- The values of the fields of a record, and the record that gives the others. -/
def fieldValues (g : Grammar) : Parse Unit :=
  Parse.repeatWhile do
    if ← next Lookahead.done then return false
    if ← accept ".." then
      if !(← next Lookahead.done) then g.value
      return false
    fieldValue g
    if ← next Lookahead.done then return false
    expect ","
    return true

/-- An operand that begins with a path: something expanded, a record, or the path. -/
def pathOperand (g : Grammar) (allowRecord : Bool) : Parse ExpressionForm := do
  let p ← anyPath g true
  if !p.qualified && p.isPlain && (← next (Lookahead.only "!" ["!="])) then
    expect "!"
    let (delimiter, _) ← Parse.anyGroup
    return if delimiter = .brace then .expanded else .other
  else if allowRecord && (← next (Lookahead.group .brace)) then
    Parse.inGroup .brace (fieldValues g)
  return .other

/-- Values in square brackets, or one value and how often it is there. -/
def bracketedOperand (g : Grammar) : Parse Unit :=
  Parse.inGroup .bracket do
    if ← next Lookahead.done then return
    g.value
    if ← accept ";" then g.value
    else if ← accept "," then
      let _ ← Parse.listed g.value

/-- Whether a closure comes next. -/
def startsClosure : Lookahead := fun trees =>
  Lookahead.either [punct "|", word "move", word "static", startsClosureParameters] trees ||
    word "const" trees && !Lookahead.second (Lookahead.group .brace) trees ||
    word "async" trees && Lookahead.second (Lookahead.either [punct "|", word "move"]) trees

/-- Whether a block that runs apart comes next. -/
def startsAsyncBlock : Lookahead := fun trees =>
  word "async" trees &&
    (Lookahead.second (Lookahead.group .brace) trees ||
      Lookahead.second (word "move") trees && Lookahead.third (Lookahead.group .brace) trees)

/-- Whether a path comes next that begins an operand. -/
def startsPathOperand : Lookahead := fun trees =>
  Lookahead.either [startsPart, punct "::", punct "<"] trees ||
    word "try" trees && Lookahead.second (Lookahead.either [punct "!", punct "::"]) trees

/-- An operand that is neither a form that ends in a block nor extends as far as it can. -/
def closedForm (g : Grammar) (allowRecord : Bool) : Parse ExpressionForm := do
  let trees := (← get).trees
  if Lookahead.literal trees then
    Parse.literal
    return .other
  else if startsAsyncBlock trees then
    expectWord "async"
    let _ ← acceptWord "move"
    block g
    return .other
  else if startsForeign trees then
    foreignForm
    return .asWritten
  else if startsPathOperand trees then pathOperand g allowRecord
  else if Lookahead.group .parenthesis trees then
    let _ ← Parse.inGroup .parenthesis (Parse.listed g.value)
    return .other
  else if ← acceptWord "continue" then
    let _ ← Parse.acceptLifetime
    return .other
  else if ← acceptWord "become" then
    g.value
    return .asWritten
  else if Lookahead.group .bracket trees then
    bracketedOperand g
    return .other
  else
    expectWord "_"
    return .other

/-- An operand that has no operand at its edges. -/
def closedExpr (g : Grammar) (allowRecord : Bool) : Parse Expression := do
  let start ← get
  let (form, printed) ← captured (closedForm g allowRecord)
  if form = .asWritten then return .asWritten (← Parse.writtenSince start)
  else return { form := form, printed := printed }

/-- An operand without what comes before and after it. -/
def atom (g : Grammar) (allowRecord : Bool) : Parse Expression := do
  let trees := (← get).trees
  let plain := Lookahead.literal trees || startsAsyncBlock trees
  if !plain && startsClosure trees then closure g allowRecord
  else if word "break" trees then breakExpr g allowRecord
  else if Lookahead.anyWord ["return", "yield"] trees then returnExpr g
  else if word "let" trees then bindingExpr g allowRecord
  else if punct ".." trees then rangeExpr g allowRecord none
  else
    match ← blockExpr g with
    | some e => return e
    | none => closedExpr g allowRecord

/-- An operator in front of its operand, if one comes next. -/
def leadingOperator : Parse Bool := do
  if ← accept "&" then
    let raw ← next fun trees =>
      word "raw" trees && Lookahead.second (Lookahead.anyWord ["mut", "const"]) trees
    if raw then expectWord "raw"
    let mutable ← acceptWord "mut"
    if raw && !mutable then expectWord "const"
    return true
  else if ← accept "*" then return true
  else if ← accept "!" then return true
  else accept "-"

/-- An operand with its attributes, the operators in front of it and what follows it. One of
another grammar is printed as it stands, with its attributes. -/
def operandForm (g : Grammar) (allowRecord : Bool) : Parse Expression := do
  let start ← get
  let (_, attributes) ← captured (outerAttributes g)
  let (isUnary, operator) ← captured leadingOperator
  if isUnary then return .ending (attributes ++ operator) (← g.operand allowRecord)
  let e ← withTrailers g (← atom g allowRecord)
  if e.form = .asWritten then return .asWritten (← Parse.writtenSince start)
  require (attributes.isEmpty || !e.isRange)
  return e.withAttributes attributes

/-- An expression. -/
def exprForm (g : Grammar) (allowRecord : Bool) : Parse Expression := do
  let e ← operandForm g allowRecord
  operatorsAfter g allowRecord .lowest e

/-- An expression at the beginning of a statement or an arm. A form that ends in a block goes on
only with a selection or a propagated failure. -/
def leadingExprForm (g : Grammar) : Parse Expression := do
  let (_, attributes) ← captured (outerAttributes g)
  match ← blockExpr g with
  | some e =>
      if ← next (Lookahead.either [Lookahead.only "." [".."], punct "?"]) then
        operatorsAfter g true .lowest ((← withTrailers g e).withAttributes attributes)
      else return e.withAttributes attributes
  | none =>
      let e ← operandForm g true
      operatorsAfter g true .lowest (e.withAttributes attributes)

end AdapterGen.Source.Grammar
