import ForumQuery.Text.Ranges

/-!
# Blank characters

The characters that separate the chunks of a query: the property `White_Space`, which besides the
space and the control characters from tab to carriage return has the no-break, ideographic and
typographic spaces and the line and paragraph separators.
-/

namespace ForumQuery.Text

/-- The property `White_Space`. -/
def blankRanges : List (Nat × Nat) := [
  (0x9, 0xD), (0x20, 0x20), (0x85, 0x85), (0xA0, 0xA0), (0x1680, 0x1680), (0x2000, 0x200A),
  (0x2028, 0x2029), (0x202F, 0x202F), (0x205F, 0x205F), (0x3000, 0x3000)]

/-- Whether a character separates chunks. -/
def isBlank (c : Char) : Bool := inRanges blankRanges c.toNat

end ForumQuery.Text
