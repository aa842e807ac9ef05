import SchemaNaming.Text.Ranges

/-!
Whitespace: space separators, and the control characters that separate lines, paragraphs,
segments or words in bidirectional text.
-/

namespace SchemaNaming.Text

def blankRanges : Ranges :=
  [(0x9, 0xd), (0x1c, 0x20), (0x85, 0x85), (0xa0, 0xa0), (0x1680, 0x1680), (0x2000, 0x200a),
   (0x2028, 0x2029), (0x202f, 0x202f), (0x205f, 0x205f), (0x3000, 0x3000)]

theorem blankRanges_ascending : blankRanges.Ascending := by decide +kernel

/-- Whitespace of any kind. -/
def isBlank (c : Char) : Bool := blankRanges.holds c

end SchemaNaming.Text
