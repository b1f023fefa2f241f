import ClassModel.Text.Ranges

/-!
# ClassModel.Text.WhiteSpace

The Unicode property `White_Space`, and the blanks that may stand inside a
line.
-/

namespace ClassModel.Text

/-- The code points with the property `White_Space`. -/
def whiteSpaceRanges : Ranges := [
  (0x9, 0xD), (0x20, 0x20), (0x85, 0x85), (0xA0, 0xA0), (0x1680, 0x1680), (0x2000, 0x200A),
  (0x2028, 0x2029), (0x202F, 0x202F), (0x205F, 0x205F), (0x3000, 0x3000)]

/-- The Unicode property `White_Space`. -/
def isWhiteSpace (c : Char) : Bool := whiteSpaceRanges.covers c

/-- A blank inside a line: white space other than a line feed or a carriage
return. -/
def isBlank (c : Char) : Bool := isWhiteSpace c && c != '\n' && c != '\r'

end ClassModel.Text
