import DataShape.Text.Ranges

/-!
# White space

The characters with the Unicode property `White_Space`: 25 code points.
-/

namespace DataShape

/-- Code points of white space. -/
def blankRanges : CodeRanges := [
  (0x9, 0xD), (0x20, 0x20), (0x85, 0x85), (0xA0, 0xA0), (0x1680, 0x1680), (0x2000, 0x200A),
  (0x2028, 0x2029), (0x202F, 0x202F), (0x205F, 0x205F), (0x3000, 0x3000)]

/-- White space: spaces, tabs, line ends and the separators of Unicode. -/
def isBlank (c : Char) : Bool := blankRanges.contains c

end DataShape
