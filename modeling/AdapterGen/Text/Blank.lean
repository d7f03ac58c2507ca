import AdapterGen.Text.CharRange

/-!
# Blank characters

The characters of the Unicode property `White_Space`, and trimming by it.
-/

namespace AdapterGen.Text

/-- The property `White_Space`. -/
def blankRanges : CharRanges :=
  [(0x9, 0xd), (0x20, 0x20), (0x85, 0x85), (0xa0, 0xa0), (0x1680, 0x1680), (0x2000, 0x200a),
   (0x2028, 0x2029), (0x202f, 0x202f), (0x205f, 0x205f), (0x3000, 0x3000)]

/-- Whether a character is blank. -/
def isBlank (c : Char) : Bool := blankRanges.has c

/-- The characters left after both blank ends are removed. -/
def trimChars (cs : List Char) : List Char :=
  ((cs.dropWhile isBlank).reverse.dropWhile isBlank).reverse

/-- Removes blanks from both ends. -/
def trim (s : String) : String := String.ofList (trimChars s.toList)

/-- Whether nothing but blanks occurs. -/
def isAllBlank (s : String) : Bool := s.toList.all isBlank

end AdapterGen.Text
