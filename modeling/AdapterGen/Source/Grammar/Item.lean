import AdapterGen.Source.Grammar.Statement

/-!
# Items

Declarations of files, modules and blocks. Only records, modules and
enumerations are kept. An item that is not written in full, or that means
something only elsewhere, is printed as it stands.
-/

namespace AdapterGen.Source.Grammar

open Parse (next expect expectWord accept acceptWord require asWrittenSince)
open Lookahead (punct word)

/-! ### Visibility -/

/-- How widely an item can be seen. -/
inductive Visibility where
  | inherited
  | everywhere
  | restricted
  deriving DecidableEq

/-- The visibility of an item. Parentheses after its keyword restrict it unless they hold a
type. -/
def visibility : Parse Visibility := do
  if !(← acceptWord "pub") then return .inherited
  match (← get).trees with
  | .group .parenthesis inner :: _ =>
      if Lookahead.anyWord ["crate", "self", "super"] inner then
        if inner.length == 1 then
          let _ ← Parse.anyGroup
          return .restricted
        else return .everywhere
      else if word "in" inner then
        Parse.inGroup .parenthesis do
          expectWord "in"
          let _ ← plainPath startsPart
        return .restricted
      else return .everywhere
  | _ => return .everywhere

/-! ### Functions -/

/-- The words in front of a function; whether one of them says that it is safe. -/
def functionQualifiers (allowSafe : Bool) : Parse Bool := do
  let _ ← acceptWord "const"
  let _ ← acceptWord "async"
  let isUnsafe ← acceptWord "unsafe"
  let isSafe ← if allowSafe && !isUnsafe then acceptWord "safe" else pure false
  callingConvention
  return isSafe

/-- Whether a function comes next. -/
def startsFunction (allowSafe : Bool) : Parse Bool := do
  match functionQualifiers allowSafe (← get) with
  | some (_, after) => return word "fn" after.trees
  | none => return false

/-- Whether the receiver of a method comes next. -/
def startsReceiver : Lookahead := fun trees =>
  let skipIf := fun (test : Lookahead) rest => if test rest then Lookahead.skip rest else rest
  let target := if punct "&" trees then skipIf Lookahead.lifetime (Lookahead.skip trees) else trees
  let named := skipIf (word "mut") target
  word "self" named && !Lookahead.second (punct "::") named

/-- The receiver of a method. -/
def receiver (g : Grammar) : Parse Unit := do
  let borrowed ← accept "&"
  if borrowed then
    let _ ← Parse.acceptLifetime
  let _ ← acceptWord "mut"
  expectWord "self"
  if !borrowed && (← accept ":") then
    let _ ← g.type true

/-- A comma unless nothing is left. -/
def commaOrEnd : Parse Unit := do
  if !(← next Lookahead.done) then expect ","

/-- A parameter that is only a type, which is printed with a placeholder for its name. -/
def unnamedParameter (g : Grammar) : Parse Unit := do
  Parse.emit [⟨"_", false⟩, ⟨":", false⟩]
  let _ ← g.type true

/-- A parameter with its name; whether it is the variable one. -/
def namedParameter (g : Grammar) : Parse Bool := do
  let _ ← g.pattern
  expect ":"
  if ← accept "..." then return true
  let _ ← g.type true
  return false

/-- The parameters of a function. Only the first may be the receiver, and only the last may be
variable. -/
def parameters (g : Grammar) : Nat → (isFirst : Bool) → Parse Unit
  | 0, _ => failure
  | fuel + 1, isFirst => do
      if ← next Lookahead.done then return
      let _ ← outerAttributes g
      let isVariable ←
        if ← accept "..." then pure true
        else if ← next startsReceiver then do
          require isFirst
          receiver g
          pure false
        else if ← next (fun trees =>
            Lookahead.name trees && Lookahead.second (punct "<") trees) then do
          unnamedParameter g
          pure false
        else namedParameter g
      commaOrEnd
      if !isVariable then parameters g fuel false

/-- A function up to its body; whether it is marked as safe. -/
def signature (g : Grammar) (allowSafe : Bool) : Parse Bool := do
  let isSafe ← functionQualifiers allowSafe
  expectWord "fn"
  let _ ← Parse.name
  let _ ← genericParameters g
  Parse.inGroup .parenthesis do
    parameters g ((← get).trees.length + 1) true
  let _ ← returnType g true
  let _ ← whereClause g
  return isSafe

/-- The body of a function, which may be left out; whether it is there. -/
def functionBody (g : Grammar) : Parse Bool := do
  if ← accept ";" then return false
  attributedBlock g
  return true

/-- A function; whether it has a body. -/
def function (g : Grammar) : Parse Bool := do
  let _ ← signature g false
  functionBody g

/-! ### Constants and types -/

/-- What is written of a constant, a variable or a name for a type. -/
structure Definition where
  /-- Whether neither bounds nor conditions are written. -/
  isPlain : Bool
  /-- Whether a value is written, or the type that is named. -/
  isDefined : Bool

/-- A constant. -/
def constant (g : Grammar) : Parse Definition := do
  expectWord "const"
  require (← next startsLabel)
  let _ ← Parse.anyName
  let generic ← genericParameters g
  expect ":"
  let _ ← g.type true
  let isDefined ← accept "="
  if isDefined then g.value
  let stated ← whereClause g
  expect ";"
  return ⟨!generic && !stated, isDefined⟩

/-- A variable of a whole program; whether its type and its value are written. -/
def globalVariable (g : Grammar) : Parse Bool := do
  expectWord "static"
  let _ ← acceptWord "mut"
  let _ ← Parse.name
  let typed ← accept ":"
  if typed then
    let _ ← g.type true
  let isDefined ← accept "="
  require (typed || isDefined)
  if isDefined then g.value
  expect ";"
  return typed && isDefined

/-- A name for a type, with bounds and a definition, given where bounds on its parameters may
stand. -/
def typeAlias (g : Grammar) (whereBefore whereAfter : Bool) : Parse Definition := do
  expectWord "type"
  let _ ← Parse.name
  let _ ← genericParameters g
  let stop := Lookahead.either [word "where", punct "=", punct ";"]
  let bounded ← optionalBounds (Parse.separated "+" stop (plainBound g))
  let stated ← if whereBefore then whereClause g else pure false
  let isDefined ← accept "="
  if isDefined then
    let _ ← g.type true
  if whereAfter && !stated then
    let _ ← whereClause g
  expect ";"
  return ⟨!bounded, isDefined⟩

/-! ### Records, unions and enumerations -/

/-- The fields of a record in braces. -/
def namedFields (field : Parse RecordField) : Parse (List RecordField) :=
  Parse.inGroup .brace (Parse.listed field)

/-- The type of a field without a name, which may be a record or a union of its own. -/
def nestedFieldsType (field : Parse RecordField) : Parse FieldType := do
  let (_, printed) ← Parse.withPrinted <| Parse.asWritten do
    let _ ← Parse.anyName
    namedFields field
  return .unsupported (spell printed)

/-- A named field; the fields of a field without a name nest at most to a depth. -/
def namedField (g : Grammar) : Nat → Parse RecordField
  | 0 => failure
  | fuel + 1 => do
      let attributes ← outerAttributes g
      let _ ← visibility
      let unnamed ← next (word "_")
      let name ← if unnamed then Parse.anyName else Parse.name
      expect ":"
      let nested ← next fun trees =>
        unnamed && (word "struct" trees ||
          word "union" trees && Lookahead.second (Lookahead.group .brace) trees)
      if nested then return ⟨attributes, name, ← nestedFieldsType (namedField g fuel)⟩
      else return ⟨attributes, name, (← g.type true).type⟩

/-- The fields of a record in braces. -/
def fieldsInBraces (g : Grammar) : Parse (List RecordField) := do
  namedFields (namedField g (TokenTree.sizeAll (← get).trees + 1))

/-- A field that is known by its position. -/
def positionalField (g : Grammar) : Parse Unit := do
  let _ ← outerAttributes g
  let _ ← visibility
  let _ ← g.type true

/-- The fields of a record in parentheses. -/
def positionalFields (g : Grammar) : Parse Unit := do
  let _ ← Parse.inGroup .parenthesis (Parse.listed (positionalField g))

/-- The fields of a record with the clauses and the semicolon around them. -/
def recordFields (g : Grammar) : Parse RecordFields := do
  let stated ← whereClause g
  if !stated && (← next (Lookahead.group .parenthesis)) then
    positionalFields g
    let _ ← whereClause g
    expect ";"
    return .positional
  else if ← next (Lookahead.group .brace) then return .named (← fieldsInBraces g)
  else
    expect ";"
    return .unit

/-- A record after its visibility. -/
def recordRest (g : Grammar) (attributes : List Attribute) (seen : Visibility) : Parse Item := do
  expectWord "struct"
  let name ← Parse.name
  let _ ← genericParameters g
  return .record ⟨attributes, seen = .everywhere, name, ← recordFields g⟩

/-- A case of an enumeration, whose visibility is not printed. -/
def variant (g : Grammar) : Parse Unit := do
  let _ ← outerAttributes g
  let _ ← Parse.unprinted visibility
  let _ ← Parse.name
  if ← next (Lookahead.group .brace) then
    let _ ← fieldsInBraces g
  else if ← next (Lookahead.group .parenthesis) then positionalFields g
  if ← accept "=" then g.value

/-- An enumeration after its visibility. -/
def enumeration (g : Grammar) : Parse Unit := do
  expectWord "enum"
  let _ ← Parse.name
  let _ ← genericParameters g
  let _ ← whereClause g
  let _ ← Parse.inGroup .brace (Parse.listed (variant g))

/-- A union after its visibility. -/
def union (g : Grammar) : Parse Unit := do
  expectWord "union"
  let _ ← Parse.name
  let _ ← genericParameters g
  let _ ← whereClause g
  let _ ← fieldsInBraces g

/-! ### Imports -/

/-- The new name of an import: a name or a placeholder. -/
def importedName : Parse Unit := do
  require (← next startsLabel)
  let _ ← Parse.anyName

/-- An import below a path. Groups nest at most to a depth; the root may be named in each branch
that has not named it. Gives whether a branch names it. -/
def importTree : Nat → (allowRoot : Bool) → Parse Bool
  | 0, _ => failure
  | fuel + 1, allowRoot => do
      if ← next (Lookahead.either
          [Lookahead.name, Lookahead.anyWord ["self", "super", "crate", "try"]]) then
        let _ ← Parse.anyName
        if ← accept "::" then return ← importTree fuel false
        if ← acceptWord "as" then importedName
        return false
      else if ← accept "*" then return false
      else
        let rooted ← Parse.inGroup .brace <| Parse.listed do
          let rooted ← if allowRoot then accept "::" else pure false
          return rooted || (← importTree fuel (allowRoot && !rooted))
        return rooted.any id

/-- An import after its visibility; whether a branch of it names the root. -/
def importItem : Parse Bool := do
  expectWord "use"
  let rooted ← accept "::"
  let branches ← importTree (TokenTree.sizeAll (← get).trees + 1) (!rooted)
  expect ";"
  return branches

/-- The import of a whole library. -/
def importLibrary : Parse Unit := do
  expectWord "extern"
  expectWord "crate"
  if !(← acceptWord "self") then
    let _ ← Parse.name
  if ← acceptWord "as" then importedName
  expect ";"

/-! ### Members -/

/-- A semicolon after something expanded, unless it is in braces. -/
def expandedEnd : Parse Unit := do
  let (delimiter, _) ← Parse.anyGroup
  if delimiter ≠ .brace then expect ";"

/-- Something expanded in the place of a member. -/
def expandedMember : Parse Unit := do
  let _ ← plainPath startsPart
  expect "!"
  expandedEnd

/-- Whether something expanded comes next. -/
def startsExpanded : Lookahead :=
  Lookahead.either [Lookahead.name, Lookahead.anyWord ["self", "super", "crate"], punct "::"]

/-- A member of a trait, which is printed as it stands where a word in front of it means nothing
there. -/
def traitMember (g : Grammar) : Parse Unit := do
  let start ← get
  let _ ← outerAttributes g
  let seen ← visibility
  let isDefault ← acceptWord "default"
  let isPlain := seen = .inherited && !isDefault
  let isMember ←
    if ← startsFunction false then do
      let _ ← function g
      pure true
    else if ← next (word "const") then pure (← constant g).isPlain
    else if ← next (word "type") then do
      let _ ← typeAlias g false true
      pure true
    else do
      require (isPlain && (← next startsExpanded))
      expandedMember
      pure true
  if !(isPlain && isMember) then asWrittenSince start

/-- A member of an implementation, which is printed as it stands unless it is complete. -/
def implementationMember (g : Grammar) : Parse Unit := do
  let start ← get
  let _ ← outerAttributes g
  let seen ← visibility
  let isDefault ← next fun trees =>
    word "default" trees && !Lookahead.second (punct "!") trees
  if isDefault then expectWord "default"
  let isComplete ←
    if ← startsFunction false then function g
    else if ← next (word "const") then do
      let definition ← constant g
      pure (definition.isPlain && definition.isDefined)
    else if ← next (word "type") then do
      let definition ← typeAlias g false true
      pure (definition.isPlain && definition.isDefined)
    else do
      require (seen = .inherited && !isDefault && (← next startsExpanded))
      expandedMember
      pure true
  if !isComplete then asWrittenSince start

/-- A variable that is defined elsewhere; whether only its name and its type are written. -/
def foreignVariable (g : Grammar) : Parse Bool := do
  let isUnsafe ← acceptWord "unsafe"
  let isSafe ← if isUnsafe then pure false else acceptWord "safe"
  expectWord "static"
  let _ ← acceptWord "mut"
  let _ ← Parse.name
  expect ":"
  let _ ← g.type true
  let isDefined ← accept "="
  if isDefined then g.value
  expect ";"
  return !isUnsafe && !isSafe && !isDefined

/-- A declaration of something that is defined elsewhere. One that defines it is printed as it
stands, and so is one that says whether it is safe. -/
def foreignMember (g : Grammar) : Parse Unit := do
  let start ← get
  let _ ← outerAttributes g
  let seen ← visibility
  let isVariable ← next fun trees =>
    word "static" trees ||
      Lookahead.anyWord ["unsafe", "safe"] trees && Lookahead.second (word "static") trees
  let isDeclaration ←
    if ← startsFunction true then do
      let isSafe ← signature g true
      let isDefined ← functionBody g
      pure (!isSafe && !isDefined)
    else if isVariable then foreignVariable g
    else if ← next (word "type") then do
      let definition ← typeAlias g true true
      pure (definition.isPlain && !definition.isDefined)
    else do
      require (seen = .inherited && (← next startsExpanded))
      expandedMember
      pure true
  if !isDeclaration then asWrittenSince start

/-- Members in braces after attributes. -/
def members (g : Grammar) (member : Parse Unit) : Parse Unit :=
  Parse.inGroup .brace do
    let _ ← innerAttributes g
    let _ ← Parse.upTo Lookahead.done member

/-- Declarations of what is defined elsewhere. -/
def foreignBlock (g : Grammar) : Parse Unit := do
  let _ ← acceptWord "unsafe"
  require (← next (word "extern"))
  callingConvention
  members g (foreignMember g)

/-! ### Traits and implementations -/

/-- A trait, or a name for several traits. -/
def traitItem (g : Grammar) : Parse Unit := do
  let isUnsafe ← acceptWord "unsafe"
  let isAuto ← acceptWord "auto"
  expectWord "trait"
  let _ ← Parse.name
  let _ ← genericParameters g
  if !isUnsafe && !isAuto && (← accept "=") then
    let stop := Lookahead.either [word "where", punct ";"]
    let _ ← Parse.separated "+" stop (objectBound g)
    let _ ← whereClause g
    expect ";"
  else
    let stop := Lookahead.either [word "where", Lookahead.group .brace]
    let _ ← optionalBounds (Parse.separated "+" stop (plainBound g))
    let _ ← whereClause g
    members g (traitMember g)

/-- Whether a mark that something holds at compile time comes next. -/
def startsConstMark : Lookahead := fun trees =>
  word "const" trees || punct "?" trees && Lookahead.second (word "const") trees

/-- What an implementation is of and for; whether it is of a path, if it is for something. One
that says what does not hold is always for something. -/
def implementationTarget (g : Grammar) : Parse Bool := do
  let isNegative ← next fun trees =>
    punct "!" trees && !Lookahead.second (Lookahead.group .brace) trees
  if isNegative then expect "!"
  let first ← g.type true
  if ← acceptWord "for" then
    let _ ← g.type true
    match first.form with
    | .path p => return !p.qualified
    | _ => return false
  else
    require (!isNegative)
    return true

/-- An implementation; whether it holds not only at compile time, and is of a path if it is for
something. -/
def implementation (g : Grammar) : Parse Bool := do
  let _ ← acceptWord "default"
  let _ ← acceptWord "unsafe"
  expectWord "impl"
  if ← next startsGenerics then
    let _ ← genericParameters g
  let isConst ← next startsConstMark
  if isConst then
    let _ ← accept "?"
    expectWord "const"
  let isOfPath ← implementationTarget g
  let _ ← whereClause g
  members g (implementationMember g)
  return !isConst && isOfPath

/-! ### Modules and expansions -/

/-- An item with its attributes. -/
def attributedItem (g : Grammar) : Parse Item := do
  let start ← get
  let attributes ← outerAttributes g
  g.item start attributes

/-- A module after its visibility. -/
def moduleRest (g : Grammar) (attributes : List Attribute) : Parse Item := do
  let _ ← acceptWord "unsafe"
  expectWord "mod"
  if !(← acceptWord "try") then
    let _ ← Parse.name
  if ← accept ";" then return .submodule attributes []
  else
    Parse.inGroup .brace do
      let inner ← innerAttributes g
      return .submodule (attributes ++ inner)
        (← Parse.upTo Lookahead.done (attributedItem g))

/-- Something expanded in the place of an item, which may define a name. -/
def expandedItem : Parse Unit := do
  let _ ← plainPath startsPart
  expect "!"
  if !(← acceptWord "try") then
    if ← next Lookahead.name then
      let _ ← Parse.name
  expandedEnd

/-- The definition of something to expand. -/
def expansionRule : Parse Unit := do
  expectWord "macro"
  let _ ← Parse.name
  if ← next (Lookahead.group .parenthesis) then
    let _ ← Parse.anyGroup
  Parse.inGroup .brace Parse.everything

/-! ### All items -/

/-- An item that is not kept, after its visibility; whether it is printed as it is parsed. -/
def otherItem (g : Grammar) (seen : Visibility) : Parse Bool := do
  let trees := (← get).trees
  let second := fun test => Lookahead.second test trees
  let autoTrait := fun rest => word "auto" rest && Lookahead.second (word "trait") rest
  let isBlock := word "extern" trees && !second (word "crate")
  let isTrait := word "trait" trees || autoTrait trees
  let isImplementation := word "impl" trees || word "default" trees && !second (punct "!")
  if ← startsFunction false then function g
  else if word "unsafe" trees && second (Lookahead.either [word "trait", autoTrait]) || isTrait then
    traitItem g
    return true
  else if word "unsafe" trees && second (word "impl") || isImplementation then
    return (← implementation g) && seen = .inherited
  else if word "unsafe" trees || isBlock then
    require (seen = .inherited)
    foreignBlock g
    return true
  else if word "extern" trees then
    importLibrary
    return true
  else if word "use" trees then return !(← importItem)
  else if word "static" trees then globalVariable g
  else if word "const" trees then
    let definition ← constant g
    return definition.isPlain && definition.isDefined
  else if word "type" trees then
    let definition ← typeAlias g true false
    return definition.isPlain && definition.isDefined
  else if word "union" trees && second Lookahead.name then
    union g
    return true
  else if word "macro" trees then
    expansionRule
    return false
  else
    require (seen = .inherited && startsExpanded trees)
    expandedItem
    return true

/-- An item after its attributes, which begin at a cursor. -/
def itemRest (g : Grammar) (start : Cursor) (attributes : List Attribute) : Parse Item := do
  let seen ← visibility
  let trees := (← get).trees
  if word "mod" trees || word "unsafe" trees && Lookahead.second (word "mod") trees then
    moduleRest g attributes
  else if word "struct" trees then recordRest g attributes seen
  else if word "enum" trees then
    enumeration g
    return .enumeration attributes
  else
    if !(← otherItem g seen) then asWrittenSince start
    return .other

end AdapterGen.Source.Grammar
