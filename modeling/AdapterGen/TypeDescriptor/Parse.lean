import AdapterGen.TypeDescriptor.Token

/-!
# Reading the type syntax

    type      ::= name arguments? brackets*
    argument  ::= type | "?" | "?" "extends" argument | "?" "super" argument
    arguments ::= "<" argument ("," argument)* ">"

Only a class name may take arguments, and no argument is a bare primitive. A
lower bound leaves a wildcard with the greatest upper bound.
-/

namespace AdapterGen.TypeDescriptor

/-- Whether a run of name characters may name a type. -/
def isTypeName (name : String) : Bool :=
  name != "void" && !(Text.segments '.' name.toList).contains []

/-- The type without arguments that a name denotes. -/
def ofName (name : String) : TypeDescriptor :=
  match PrimitiveKind.ofKeyword? name with
  | some kind => primitive kind
  | none =>
      if name = "String" ∨ name = "java.lang.String" then string
      else
        match PrimitiveKind.ofBoxedName? name with
        | some kind => boxed kind
        | none => reference name []

/-- Wraps one array level for each pair of brackets in front. -/
def takeDims : TypeDescriptor → List PlacedToken → TypeDescriptor × List PlacedToken
  | type, ⟨_, .dims⟩ :: rest => takeDims (array type) rest
  | type, rest => (type, rest)

/-- Refuses a bare primitive in argument position. -/
def checkArgument (isArgument : Bool) (type : TypeDescriptor) : Except SyntaxError Unit :=
  match isArgument, type with
  | true, primitive kind => .error (.primitiveArgument kind)
  | _, _ => .ok ()

/-- Reads what follows the question mark of a wildcard, its bound by the given reader. -/
def wildcardOf (readBound : List PlacedToken → Except SyntaxError (TypeDescriptor × List PlacedToken))
    (tokens : List PlacedToken) : Except SyntaxError (TypeDescriptor × List PlacedToken) :=
  match tokens with
  | ⟨_, .name word⟩ :: rest =>
      if word = "extends" then do
        let (bound, after) ← readBound rest
        return (wildcard bound, after)
      else if word = "super" then do
        let (_, after) ← readBound rest
        return (wildcard object, after)
      else return (wildcard object, tokens)
  | _ => return (wildcard object, tokens)

/-- Reads what follows a name up to its brackets, its arguments by the given reader. -/
def namedOf
    (readArguments : List PlacedToken → Except SyntaxError (List TypeDescriptor × List PlacedToken))
    (position : Nat) (name : String) (tokens : List PlacedToken) :
    Except SyntaxError (TypeDescriptor × List PlacedToken) :=
  if !isTypeName name then .error (.unexpected position name)
  else
    match tokens with
    | ⟨opening, .less⟩ :: inner =>
        match ofName name with
        | reference name _ => do
            let (args, after) ← readArguments inner
            return (reference name args, after)
        | _ => .error (.unexpected opening (Token.text .less))
    | _ => return (ofName name, tokens)

mutual

/-- Reads a type, or an argument, from the front of a token list. The fuel bounds the nesting;
one more than the number of tokens is enough. -/
def parseType : Nat → Bool → List PlacedToken →
    Except SyntaxError (TypeDescriptor × List PlacedToken)
  | 0, _, _ | _, _, [] => .error .unexpectedEnd
  | fuel + 1, isArgument, ⟨position, token⟩ :: rest =>
      match token with
      | .question =>
          if isArgument then wildcardOf (parseType fuel true) rest
          else .error (.unexpected position token.text)
      | .name name => do
          let (base, after) ← namedOf (parseArguments fuel) position name rest
          let (type, after) := takeDims base after
          checkArgument isArgument type
          return (type, after)
      | _ => .error (.unexpected position token.text)

/-- Reads arguments up to and with the closing angle bracket. -/
def parseArguments : Nat → List PlacedToken →
    Except SyntaxError (List TypeDescriptor × List PlacedToken)
  | 0, _ => .error .unexpectedEnd
  | fuel + 1, tokens => do
      let (arg, rest) ← parseType fuel true tokens
      match rest with
      | [] => .error .unexpectedEnd
      | ⟨_, .greater⟩ :: after => return ([arg], after)
      | ⟨_, .comma⟩ :: more => do
          let (args, after) ← parseArguments fuel more
          return (arg :: args, after)
      | ⟨position, token⟩ :: _ => .error (.unexpected position token.text)

end

/-- Reads a whole token list as one type. -/
def ofTokens (tokens : List PlacedToken) : Except SyntaxError TypeDescriptor := do
  if tokens.isEmpty then .error .empty
  let (type, rest) ← parseType (tokens.length + 1) false tokens
  match rest with
  | [] => return type
  | ⟨position, token⟩ :: _ => .error (.trailing position token.text)

/-- Reads a type in Java syntax. -/
def parse (input : String) : Except SyntaxError TypeDescriptor := tokens input >>= ofTokens

end AdapterGen.TypeDescriptor
