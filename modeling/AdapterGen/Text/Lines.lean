import AdapterGen.Text.Segments

/-!
# Lines

A line ends at a line feed, or at a carriage return and a line feed. The last
line needs no end, and an empty one after the last end does not count.
-/

namespace AdapterGen.Text

/-- A line without the carriage return before its end. -/
def dropCarriageReturn (line : List Char) : List Char :=
  if line.getLast? = some '\r' then line.dropLast else line

/-- The lines of pieces cut at line feeds: every piece but the last had an end. -/
def closeLines : List (List Char) → List (List Char)
  | [] => []
  | [last] => if last = [] then [] else [last]
  | line :: next :: rest => dropCarriageReturn line :: closeLines (next :: rest)

/-- The lines of a text. -/
def lines (s : String) : List String :=
  (closeLines (segments '\n' s.toList)).map String.ofList

end AdapterGen.Text
