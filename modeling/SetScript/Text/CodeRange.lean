/-!
# Ranges of code points

The properties of characters that the scanner and the quoting of text depend on
are published as sorted lists of code point ranges.  This module says what it
means for a character to lie in such a list.
-/

namespace SetScript.Text

/-- A closed range of code points, both ends included. -/
abbrev CodeRange := Nat × Nat

/-- Whether a character lies in one of the listed ranges. -/
def inRanges (ranges : List CodeRange) (c : Char) : Bool :=
  ranges.any fun range => range.1 ≤ c.toNat && c.toNat ≤ range.2

/-- Whether a character is one of the first 128 code points. -/
def isAscii (c : Char) : Bool :=
  c.toNat < 128

end SetScript.Text
