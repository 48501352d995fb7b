import Conformance.Text.RangeTable

/-!
White space as the Unicode property White_Space defines it, and trimming by it.

Trimming removes the longest runs of white space at both ends; inner white space stays.
The set holds the ASCII blanks, the next-line control, the no-break space, the ideographic
space and the other Unicode space separators.
-/

set_option autoImplicit false

namespace Conformance.Text

/-- Code points with the property White_Space. The ten ranges are written out, not decoded
from the compact form, so that membership of a given character can be worked out in a proof. -/
def whiteSpaceTable : RangeTable :=
  ⟨#[(0x9, 0xD), (0x20, 0x20), (0x85, 0x85), (0xA0, 0xA0), (0x1680, 0x1680), (0x2000, 0x200A),
    (0x2028, 0x2029), (0x202F, 0x202F), (0x205F, 0x205F), (0x3000, 0x3000)]⟩

/-- Whether a character is white space. -/
def isWhiteSpace (c : Char) : Bool := whiteSpaceTable.contains c

/-- Drops the white space at the front of a character list. -/
def dropWhiteFront (cs : List Char) : List Char := cs.dropWhile isWhiteSpace

/-- Removes white space at both ends of a character list. -/
def trimChars (cs : List Char) : List Char :=
  (dropWhiteFront (dropWhiteFront cs).reverse).reverse

/-- Removes white space at both ends of a text. -/
def trimWhite (s : String) : String := String.ofList (trimChars s.toList)

end Conformance.Text
