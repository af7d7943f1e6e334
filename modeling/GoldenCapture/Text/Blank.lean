import GoldenCapture.Text.CodeSet

/-!
# Blanks

The characters that stand for white space in every script, and trimming them.
-/

namespace GoldenCapture

namespace Text

/-- White space: control blanks, spaces of any width, and line and paragraph separators. -/
def blanks : CodeSet := CodeSet.ofRanges [
  (0x09, 0x0D), (0x20, 0x20), (0x85, 0x85), (0xA0, 0xA0), (0x1680, 0x1680), (0x2000, 0x200A),
  (0x2028, 0x2029), (0x202F, 0x202F), (0x205F, 0x205F), (0x3000, 0x3000)]

def isBlank (c : Char) : Bool := blanks.contains c

def skipBlanks (cs : List Char) : List Char := cs.dropWhile isBlank

/-- The text without blanks on either side. -/
def trim (s : String) : String :=
  String.ofList (skipBlanks (skipBlanks s.toList).reverse).reverse

end Text

end GoldenCapture
