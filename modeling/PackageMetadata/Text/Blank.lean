/-!
# Blank characters and trimming

A text is a list of characters wherever it is taken apart.  This module says which
characters are blank, namely those with the Unicode property `White_Space`, and removes
them from the ends of a text.
-/

namespace PackageMetadata
namespace Text

/-- Whether a code point lies in one of the given closed ranges. -/
def inRanges
    (ranges : List (Nat × Nat))
    (code : Nat) :
    Bool :=
  ranges.any fun range => range.1 ≤ code && code ≤ range.2

/-- The code points with the property `White_Space`. -/
def blankRanges : List (Nat × Nat) :=
  [(0x9, 0xd), (0x20, 0x20), (0x85, 0x85), (0xa0, 0xa0), (0x1680, 0x1680),
    (0x2000, 0x200a), (0x2028, 0x2029), (0x202f, 0x202f), (0x205f, 0x205f),
    (0x3000, 0x3000)]

/-- Whether a character is white space anywhere in Unicode. -/
def isBlank (c : Char) : Bool :=
  inRanges blankRanges c.toNat

/-- Removes the longest end of a text whose characters all satisfy `p`. -/
def dropEndWhile
    (p : Char → Bool)
    (s : List Char) :
    List Char :=
  (s.reverse.dropWhile p).reverse

/-- Removes the blanks at both ends of a text. -/
def trim (s : List Char) : List Char :=
  dropEndWhile isBlank (s.dropWhile isBlank)

end Text
end PackageMetadata
