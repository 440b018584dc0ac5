/-!
# Blank characters

The characters that separate words and that are dropped from both ends of a text: the Unicode
white space together with the four information separators. A text is blank when it holds nothing
else.
-/

namespace Bitemporal.Text

def blankRanges : List (Nat × Nat) := [
  (0x9, 0xd), (0x1c, 0x20), (0x85, 0x85), (0xa0, 0xa0), (0x1680, 0x1680), (0x2000, 0x200a),
  (0x2028, 0x2029), (0x202f, 0x202f), (0x205f, 0x205f), (0x3000, 0x3000)]

def inRanges (ranges : List (Nat × Nat)) (code : Nat) : Bool :=
  ranges.any fun range => range.1 ≤ code && code ≤ range.2

def isBlank (c : Char) : Bool := inRanges blankRanges c.toNat

def trim (s : List Char) : List Char :=
  ((s.dropWhile isBlank).reverse.dropWhile isBlank).reverse

def trimmed (s : String) : List Char := trim s.toList

/-- A text that holds blanks only, such as the empty one. -/
def allBlank (s : String) : Bool := s.toList.all isBlank

end Bitemporal.Text
