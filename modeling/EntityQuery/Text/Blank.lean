import EntityQuery.Text.CharClass

/-!
# White space

The characters with the Unicode property `White_Space`, and texts with them taken off both
ends. The information separators U+001C to U+001F, the Mongolian vowel separator and the
zero-width characters are *not* white space under this property.
-/

namespace EntityQuery.Text

/-- The Unicode property `White_Space`. -/
def whiteSpace : CharClass where
  ranges := [
    (0x0009, 0x000D), (0x0020, 0x0020), (0x0085, 0x0085), (0x00A0, 0x00A0),
    (0x1680, 0x1680), (0x2000, 0x200A), (0x2028, 0x2029), (0x202F, 0x202F),
    (0x205F, 0x205F), (0x3000, 0x3000)]

/-- The character is white space. -/
def isBlank (c : Char) : Bool := whiteSpace.contains c

/-- Drops the elements at both ends that satisfy `p`. -/
def dropAround (p : Char → Bool) (cs : List Char) : List Char :=
  ((cs.dropWhile p).reverse.dropWhile p).reverse

/-- The text without the white space at its two ends. -/
def trim (cs : List Char) : List Char := dropAround isBlank cs

end EntityQuery.Text
