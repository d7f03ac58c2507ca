import AdapterGen.Text.Alphanumeric
import AdapterGen.Text.Blank
import AdapterGen.TypeDescriptor

/-!
# Tokens of the type syntax

A name token is a maximal run of name characters; blanks only separate. Each
token keeps the byte at which it begins.
-/

namespace AdapterGen.TypeDescriptor

/-- Why a text is no type. Positions count bytes. -/
inductive SyntaxError where
  | empty
  | unexpected (position : Nat) (found : String)
  | unexpectedEnd
  | primitiveArgument (kind : PrimitiveKind)
  | trailing (position : Nat) (found : String)
  deriving DecidableEq, Repr

/-- The wording of an error found in a text. -/
def SyntaxError.message (input : String) : SyntaxError → String
  | empty => "empty type"
  | unexpected position found =>
      "unexpected '" ++ found ++ "' at offset " ++ toString position ++ " in type '" ++ input ++ "'"
  | unexpectedEnd => "unexpected end of type '" ++ input ++ "'"
  | primitiveArgument kind =>
      "primitive '" ++ kind.keyword ++ "' cannot be used as a type argument in '" ++ input ++ "'"
  | trailing position found =>
      "trailing '" ++ found ++ "' at offset " ++ toString position ++ " in type '" ++ input ++ "'"

/-- A token of the type syntax; `dims` is a pair of brackets. -/
inductive Token where
  | name (text : String)
  | less
  | greater
  | comma
  | question
  | dims
  deriving DecidableEq, Repr

/-- The spelling of a token. -/
def Token.text : Token → String
  | name text => text
  | less => "<"
  | greater => ">"
  | comma => ","
  | question => "?"
  | dims => "[]"

/-- A token and the byte at which it begins. -/
structure PlacedToken where
  position : Nat
  token : Token
  deriving DecidableEq, Repr

/-- A character of a possibly dotted name. -/
def isNameChar (c : Char) : Bool :=
  Text.isAlphanumeric c || c == '_' || c == '$' || c == '.'

/-- The number of bytes that characters take. -/
def byteLength : List Char → Nat
  | [] => 0
  | c :: cs => c.utf8Size + byteLength cs

theorem byteLength_append (cs ds : List Char) :
    byteLength (cs ++ ds) = byteLength cs + byteLength ds := by
  induction cs with
  | nil => simp [byteLength]
  | cons c cs ih => simp [byteLength, ih, Nat.add_assoc]

/-- The token that a single character spells. -/
def Token.ofChar? : Char → Option Token
  | '<' => some less
  | '>' => some greater
  | ',' => some comma
  | '?' => some question
  | _ => none

/-- Cuts a text, which begins at some byte, into tokens. -/
def tokensFrom (position : Nat) (cs : List Char) : Except SyntaxError (List PlacedToken) :=
  match cs with
  | [] => .ok []
  | c :: rest =>
      if Text.isBlank c then tokensFrom (position + c.utf8Size) rest
      else if c = '[' then
        let blanks := rest.takeWhile Text.isBlank
        let inner := position + c.utf8Size + byteLength blanks
        match _h : rest.dropWhile Text.isBlank with
        | [] => .error .unexpectedEnd
        | d :: after =>
            if d = ']' then do
              let tokens ← tokensFrom (inner + d.utf8Size) after
              return ⟨position, .dims⟩ :: tokens
            else .error (.unexpected inner d.toString)
      else if isNameChar c then do
        let tail := rest.takeWhile isNameChar
        let tokens ← tokensFrom (position + byteLength (c :: tail)) (rest.dropWhile isNameChar)
        return ⟨position, .name (String.ofList (c :: tail))⟩ :: tokens
      else
        match Token.ofChar? c with
        | some token => do
            let tokens ← tokensFrom (position + c.utf8Size) rest
            return ⟨position, token⟩ :: tokens
        | none => .error (.unexpected position c.toString)
termination_by cs.length
decreasing_by
  · simp
  · have := (List.dropWhile_suffix (l := rest) Text.isBlank).length_le
    simp only [_h, List.length_cons] at this ⊢
    omega
  · have := (List.dropWhile_suffix (l := rest) isNameChar).length_le
    simp only [List.length_cons]
    omega
  · simp

/-- The tokens of a text. -/
def tokens (input : String) : Except SyntaxError (List PlacedToken) := tokensFrom 0 input.toList

end AdapterGen.TypeDescriptor
