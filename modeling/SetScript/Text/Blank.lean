import SetScript.Text.CodeRange

/-!
# Blank characters

The characters with the Unicode property White_Space.  Blank characters separate
tokens and are dropped.
-/

namespace SetScript.Text

/-- The blank characters beyond the first 128 code points. -/
def blankRanges : List CodeRange :=
  [(0x85, 0x85), (0xa0, 0xa0), (0x1680, 0x1680), (0x2000, 0x200a), (0x2028, 0x2029),
   (0x202f, 0x202f), (0x205f, 0x205f), (0x3000, 0x3000)]

/-- Whether a character is white space. -/
def isBlank (c : Char) : Bool :=
  if isAscii c then
    c == ' ' || (9 ≤ c.toNat && c.toNat ≤ 13)
  else
    inRanges blankRanges c

end SetScript.Text
