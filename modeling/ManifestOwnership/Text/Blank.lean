import ManifestOwnership.Text.Ranges

/-! # Blank characters

The characters that surround a setting's text and mean nothing: Unicode white space together
with the four information separators.
-/

namespace ManifestOwnership.Text

def blankRanges : Ranges := [
  (0x09, 0x0D), (0x1C, 0x20), (0x85, 0x85), (0xA0, 0xA0), (0x1680, 0x1680), (0x2000, 0x200A),
  (0x2028, 0x2029), (0x202F, 0x202F), (0x205F, 0x205F), (0x3000, 0x3000)]

def isBlank (c : Char) : Bool :=
  blankRanges.holds c

/-- The characters without the blanks at both ends. -/
def stripBlanks (s : List Char) : List Char :=
  ((s.dropWhile isBlank).reverse.dropWhile isBlank).reverse

end ManifestOwnership.Text
