import AdapterGen.Source.TokenTree.Literal
import AdapterGen.Text.Blank

/-!
# Reading token trees

Blanks and plain comments separate tokens, documentation comments are
attributes, and brackets must match.
-/

namespace AdapterGen.Source.TokenTree

open Text (Reader)

/-! ### Blanks and comments -/

/-- A blank of the source; the marks of writing direction count as blanks. -/
def isSpace (c : Char) : Bool := Text.isBlank c || c == '\u200e' || c == '\u200f'

/-- Whether some characters begin with a text. -/
def begins (s : String) (cs : List Char) : Bool := s.toList.isPrefixOf cs

/-- What follows a block comment whose openings nest to a depth, and the comment after its
opening. -/
def blockComment : (depth : Nat) → List Char → Option (List Char × List Char)
  | depth, '/' :: '*' :: rest =>
      (blockComment (depth + 1) rest).map fun (body, rest) => ('/' :: '*' :: body, rest)
  | depth, '*' :: '/' :: rest =>
      match depth with
      | depth + 2 =>
          (blockComment (depth + 1) rest).map fun (body, rest) => ('*' :: '/' :: body, rest)
      | _ => some ([], rest)
  | depth, c :: rest => (blockComment depth rest).map fun (body, rest) => (c :: body, rest)
  | _, [] => none

/-- The rest of a line, without its end, and what follows. A carriage return before the line feed
belongs to the end. -/
def lineOf : List Char → List Char × List Char
  | '\r' :: '\n' :: rest => ([], '\n' :: rest)
  | '\n' :: rest => ([], '\n' :: rest)
  | c :: rest =>
      let (line, after) := lineOf rest
      (c :: line, after)
  | [] => ([], [])

/-- Whether a comment to the end of the line begins here that documents nothing. -/
def beginsLineComment (cs : List Char) : Bool :=
  begins "//" cs && (!begins "///" cs || begins "////" cs) && !begins "//!" cs

/-- Whether a block comment begins here that documents nothing. -/
def beginsBlockComment (cs : List Char) : Bool :=
  begins "/**/" cs ||
    begins "/*" cs && (!begins "/**" cs || begins "/***" cs) && !begins "/*!" cs

/-- Skips blanks and comments; the fuel is one more than the number of characters. -/
def skipSpace : Nat → List Char → List Char
  | 0, cs => cs
  | fuel + 1, cs =>
      if beginsLineComment cs then skipSpace fuel (lineOf cs).2
      else if beginsBlockComment cs then
        match blockComment 1 (cs.drop 2) with
        | some (_, rest) => skipSpace fuel rest
        | none => cs
      else
        match cs with
        | c :: rest => if isSpace c then skipSpace fuel rest else cs
        | [] => []

/-! ### Documentation comments -/

/-- A documentation comment: whether it documents what it stands in, and its text. -/
def docComment : Reader (Bool × List Char) := do
  let cs ← Reader.rest
  if begins "//!" cs then
    let (line, rest) := lineOf (cs.drop 3)
    set rest
    return (true, line)
  else if begins "/*!" cs then
    match blockComment 1 (cs.drop 2) with
    | some (body, rest) =>
        set rest
        return (true, body.drop 1)
    | none => failure
  else if begins "///" cs && !begins "////" cs then
    let (line, rest) := lineOf (cs.drop 3)
    set rest
    return (false, line)
  else if begins "/**" cs && !begins "/***" cs then
    match blockComment 1 (cs.drop 2) with
    | some (body, rest) =>
        set rest
        return (false, body.drop 1)
    | none => failure
  else failure

/-- Whether a carriage return stands without a line feed. -/
def hasLoneReturn : List Char → Bool
  | '\r' :: '\n' :: rest => hasLoneReturn rest
  | '\r' :: _ => true
  | _ :: rest => hasLoneReturn rest
  | [] => false

/-- The attribute that a documentation comment stands for. -/
def ofDocComment (inner : Bool) (text : List Char) : List TokenTree :=
  punct '#' false :: (if inner then [punct '!' false] else []) ++
    [group .bracket
      [name "doc", punct '=' false, literal (.text (String.ofList text)) (Literal.ofChars text)]]

/-! ### Tokens -/

/-- The characters of punctuation, the apostrophe of lifetimes apart. -/
def punctChars : List Char := "~!@#$%^&*-=+|;:,<.>/?".toList

/-- Whether punctuation begins here; the slash of a comment does not count. -/
def beginsPunct (cs : List Char) : Bool :=
  match cs with
  | [] => false
  | c :: _ =>
      (punctChars.contains c || c == '\'') && !begins "//" cs && !begins "/*" cs

/-- The names that cannot be raw. -/
def neverRaw : List String := ["_", "super", "self", "Self", "crate"]

/-- A name with its raw mark, if it has one. -/
def anyName : Reader String := do
  if ← Reader.accept "r#" then
    let text := String.ofList (← Literal.plainName)
    if neverRaw.contains text then failure
    return "r#" ++ text
  else return String.ofList (← Literal.plainName)

/-- The beginnings of literals that are no names. -/
def literalStarts : List String :=
  ["r\"", "r#\"", "r##", "b\"", "b'", "br\"", "br#", "c\"", "cr\"", "cr#"]

/-- A name that is not the beginning of a literal. -/
def nameToken : Reader TokenTree := do
  let cs ← Reader.rest
  if literalStarts.any (begins · cs) then failure
  return name (← anyName)

/-- One character of punctuation. An apostrophe comes before a name, and no quote closes it. -/
def punctToken : Reader TokenTree := do
  if !beginsPunct (← Reader.rest) then failure
  let c ← Reader.any
  let rest ← Reader.rest
  if c == '\'' then
    match anyName rest with
    | none => failure
    | some (_, after) =>
        if begins "'" after || (begins "#" after && !begins "r#" rest) then failure
        return punct c true
  else return punct c (beginsPunct rest)

/-- A token that is no bracket. -/
def leaf : Reader TokenTree := Literal.read <|> punctToken <|> nameToken

/-! ### Groups -/

/-- A bracket or a run of trees. -/
inductive Piece where
  | opening (delimiter : Delimiter)
  | closing (delimiter : Delimiter)
  | trees (trees : List TokenTree)

/-- The piece that a bracket is. -/
def Piece.ofChar? : Char → Option Piece
  | '(' => some (.opening .parenthesis)
  | '[' => some (.opening .bracket)
  | '\x7b' => some (.opening .brace)
  | ')' => some (.closing .parenthesis)
  | ']' => some (.closing .bracket)
  | '\x7d' => some (.closing .brace)
  | _ => none

/-- The mark of something that could not be read, which counts as a literal. -/
def unreadableMark : String := "(/*ERROR*/)"

/-- The next piece. -/
def piece : Reader Piece :=
  (do
      let (inner, text) ← docComment
      if hasLoneReturn text then failure
      return .trees (ofDocComment inner text)) <|>
    (do
      Reader.literal unreadableMark
      return .trees [literal .other unreadableMark]) <|>
    (do
      match Piece.ofChar? (← Reader.any) with
      | some piece => return piece
      | none => failure) <|>
    (do return .trees [← leaf])

/-- The pieces of a text; the fuel is one more than the number of characters. -/
def pieces : Nat → List Char → Option (List Piece)
  | 0, _ => none
  | fuel + 1, cs =>
      match skipSpace (cs.length + 1) cs with
      | [] => some []
      | rest => do
          let (first, after) ← piece rest
          return first :: (← pieces fuel after)

/-- Groups pieces by their brackets. The groups still open are kept with the trees before them,
the innermost first, and the trees of the group at hand are kept reversed. -/
def nest : List (Delimiter × List TokenTree) → List TokenTree → List Piece →
    Option (List TokenTree)
  | [], trees, [] => some trees.reverse
  | _ :: _, _, [] => none
  | open_, trees, .trees more :: rest => nest open_ (more.reverse ++ trees) rest
  | open_, trees, .opening delimiter :: rest => nest ((delimiter, trees) :: open_) [] rest
  | [], _, .closing _ :: _ => none
  | (delimiter, before) :: open_, trees, .closing other :: rest =>
      if delimiter = other then nest open_ (group delimiter trees.reverse :: before) rest
      else none

/-! ### Whole texts -/

/-- The mark of byte order. -/
def byteOrderMark : Char := '\ufeff'

/-- A text without the mark of byte order in front of it. -/
def withoutMark : List Char → List Char
  | c :: rest => if c = byteOrderMark then rest else c :: rest
  | [] => []

/-- A text without the interpreter line in front of it. -/
def withoutInterpreter (cs : List Char) : List Char :=
  if begins "#!" cs && !begins "[" (skipSpace (cs.length + 1) (cs.drop 2)) then
    cs.dropWhile (· != '\n')
  else cs

/-- The trees of a source text. -/
def read? (text : String) : Option (List TokenTree) :=
  let cs := withoutMark (withoutInterpreter (withoutMark text.toList))
  (pieces (cs.length + 1) cs).bind (nest [] [])

end AdapterGen.Source.TokenTree
