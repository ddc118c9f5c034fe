import SetScript.Text.Alphabetic
import SetScript.Text.Mark
import SetScript.Text.Numeric

/-!
# Directions

Letters are written from left to right or from right to left, and digits and
other characters go along.  A text that mixes them is read in one way only under
some conditions.
-/

namespace SetScript.Text

/-- How a character is written. -/
inductive Direction
  | leftToRight
  | rightToLeft
  /-- A digit of Europe, or of the east of Arabia. -/
  | digit
  /-- A digit of Arabia. -/
  | arabicDigit
  /-- A mark that goes with the character before it. -/
  | attached
  | neutral
deriving DecidableEq

/-- The letters that are written from right to left, and marks and code points
between them that are not in use. -/
def rightToLeftRanges : List CodeRange :=
  [(0x5be, 0x5f4), (0x608, 0x608), (0x60b, 0x60b), (0x60d, 0x60d), (0x61b, 0x64a), (0x66d, 0x6d5),
   (0x6e5, 0x6e6), (0x6ee, 0x6ef), (0x6fa, 0x7f5), (0x7fa, 0x8c9), (0xfb1d, 0xfb28),
   (0xfb2a, 0xfd3d), (0xfd50, 0xfdce), (0xfdf0, 0xfdfc), (0xfe71, 0xfefc), (0x10800, 0x1091b),
   (0x10920, 0x10b35), (0x10b40, 0x10d23), (0x10d40, 0x10d8f), (0x10e80, 0x10ff6),
   (0x1e800, 0x1eebb)]

def arabicDigitRanges : List CodeRange :=
  [(0x660, 0x669), (0x66b, 0x66c), (0x10d30, 0x10d39), (0x10e60, 0x10e7e)]

def easternDigitRanges : List CodeRange :=
  [(0x6f0, 0x6f9), (0x102e1, 0x102fb)]

namespace Direction

def ofChar (c : Char) : Direction :=
  if isAscii c then
    if c.isAlpha then leftToRight else if c.isDigit then digit else neutral
  else if isNonspacing c then attached
  else if inRanges rightToLeftRanges c then rightToLeft
  else if inRanges arabicDigitRanges c then arabicDigit
  else if inRanges easternDigitRanges c then digit
  else if isAlphanumeric c || isMark c then leftToRight
  else neutral

/-- Whether a character makes the order of a text depend on directions. -/
def isTurning (c : Char) : Bool :=
  ofChar c = rightToLeft || ofChar c = arabicDigit

end Direction

/-- The directions after the first character, without the marks at the end. -/
def innerDirections (rest : List Char) : List Direction :=
  ((rest.map Direction.ofChar).reverse.dropWhile (· == .attached)).reverse

/-- Whether a text can be read in one way only.  It starts with a letter, and what
follows agrees with the direction of that letter. -/
def isReadable : List Char → Bool
  | [] => true
  | first :: rest =>
      let inner := innerDirections rest
      let last? := inner.getLast?
      match Direction.ofChar first with
      | .leftToRight =>
          inner.all (fun direction => direction != .rightToLeft && direction != .arabicDigit) &&
            last?.all fun last => last == .leftToRight || last == .digit
      | .rightToLeft =>
          inner.all (· != .leftToRight) &&
            (last?.all fun last => last != .neutral) &&
            !(inner.contains .digit && inner.contains .arabicDigit)
      | _ => false

end SetScript.Text
