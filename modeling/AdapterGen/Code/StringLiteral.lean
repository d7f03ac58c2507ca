/-!
# String literals

A Java string literal with quotes, backslashes, line ends and tabs escaped.
-/

namespace AdapterGen.Code

/-- The spelling of a character inside a literal. -/
def escapeChar : Char → List Char
  | '"' => ['\\', '"']
  | '\\' => ['\\', '\\']
  | '\n' => ['\\', 'n']
  | '\r' => ['\\', 'r']
  | '\t' => ['\\', 't']
  | c => [c]

/-- The literal of a text. -/
def stringLiteral (value : String) : String :=
  String.ofList ('"' :: value.toList.flatMap escapeChar ++ ['"'])

end AdapterGen.Code
