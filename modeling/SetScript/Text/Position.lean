import SetScript.Text.Span

/-!
# Editor positions

Editors name a place by its line and by the number of UTF-16 units before it on
that line, both as 32-bit words.  This module converts such positions to points
and back.

A position past the end of its line means the end of the line; a position
inside a character that takes two units means the place after that character.
Lines past the end of the document have no text, and their positions and points
keep their numbers.
-/

namespace SetScript.Text

/-- A line and an offset in UTF-16 units, both counted from zero. -/
structure Position where
  line : UInt32
  character : UInt32
deriving DecidableEq

/-- The part of a document between two positions. -/
structure Range where
  start : Position
  stop : Position
deriving DecidableEq

/-- The text of one row, without its line feed. -/
def line? : Nat → List Char → Option (List Char)
  | 0, text => some (text.takeWhile (· != '\n'))
  | row + 1, text =>
      match text.dropWhile (· != '\n') with
      | [] => none
      | _ :: rest => line? row rest

/-- The number of bytes before the first place on a line that has at least the
given number of units in front of it, or the length of the line. -/
def byteColumn : List Char → Nat → Nat
  | [], _ => 0
  | c :: rest, units =>
      if units = 0 then 0 else c.utf8Size + byteColumn rest (units - utf16Width c)

/-- The number of units in front of a byte column.  Columns past the end count
as the end; a column inside a character stands for itself. -/
def unitColumn (line : List Char) (column : Nat) : Nat :=
  let column := min column (utf8Length line)
  match splitAtByte? column line with
  | some (before, _) => utf16Length before
  | none => column

namespace Position

/-- The point that a position names in a document. -/
def toPoint (content : List Char) (position : Position) : Point :=
  let row := position.line.toNat
  match line? row content with
  | some line => ⟨row, byteColumn line position.character.toNat⟩
  | none => ⟨row, position.character.toNat⟩

/-- The position of a point in a document.  Both numbers are taken modulo
`2 ^ 32`. -/
def ofPoint (content : List Char) (point : Point) : Position :=
  let character :=
    match line? point.row content with
    | some line => unitColumn line point.column
    | none => point.column
  ⟨UInt32.ofNat point.row, UInt32.ofNat character⟩

/-- Positions are ordered by line, then by character. -/
def le (p q : Position) : Bool :=
  p.line < q.line || (p.line == q.line && p.character ≤ q.character)

end Position

namespace Range

/-- The empty range at a position. -/
def caret (position : Position) : Range :=
  ⟨position, position⟩

/-- The range of a span in a document. -/
def ofSpan (content : List Char) (span : Span) : Range :=
  ⟨.ofPoint content span.start.point, .ofPoint content span.stop.point⟩

end Range

end SetScript.Text
