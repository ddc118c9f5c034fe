import SetScript.Text.Utf

/-!
# Places in a document

A `Point` is a row and a column in bytes; rows end at the line feed and nowhere
else.  A `Mark` adds the byte offset from the start of the document, and a
`Span` is a pair of marks.  Reading over a character moves a mark.
-/

namespace SetScript.Text

/-- A row and a column, both counted from zero, the column in bytes. -/
structure Point where
  row : Nat
  column : Nat
deriving DecidableEq

namespace Point

/-- The start of a document. -/
def origin : Point :=
  ⟨0, 0⟩

instance : LT Point :=
  ⟨fun p q => p.row < q.row ∨ (p.row = q.row ∧ p.column < q.column)⟩

instance : LE Point :=
  ⟨fun p q => p.row < q.row ∨ (p.row = q.row ∧ p.column ≤ q.column)⟩

instance (p q : Point) : Decidable (p < q) :=
  inferInstanceAs (Decidable (p.row < q.row ∨ (p.row = q.row ∧ p.column < q.column)))

instance (p q : Point) : Decidable (p ≤ q) :=
  inferInstanceAs (Decidable (p.row < q.row ∨ (p.row = q.row ∧ p.column ≤ q.column)))

/-- Points are ordered by row, then by column. -/
theorem lt_iff {p q : Point} :
    p < q ↔ p.row < q.row ∨ (p.row = q.row ∧ p.column < q.column) :=
  Iff.rfl

theorem le_iff {p q : Point} :
    p ≤ q ↔ p.row < q.row ∨ (p.row = q.row ∧ p.column ≤ q.column) :=
  Iff.rfl

end Point

/-- A place in a document: its byte offset and its point. -/
structure Mark where
  byte : Nat
  point : Point
deriving DecidableEq

namespace Mark

/-- The start of a document. -/
def origin : Mark :=
  ⟨0, Point.origin⟩

/-- The place after one more character. -/
def next (mark : Mark) (c : Char) : Mark :=
  { byte := mark.byte + c.utf8Size
    point :=
      if c = '\n' then
        ⟨mark.point.row + 1, 0⟩
      else
        ⟨mark.point.row, mark.point.column + c.utf8Size⟩ }

/-- The place after some more text. -/
def after (mark : Mark) (text : List Char) : Mark :=
  text.foldl next mark

@[simp]
theorem after_nil (mark : Mark) : mark.after [] = mark :=
  rfl

@[simp]
theorem after_cons (mark : Mark) (c : Char) (text : List Char) :
    mark.after (c :: text) = (mark.next c).after text :=
  rfl

theorem after_append (mark : Mark) (first second : List Char) :
    mark.after (first ++ second) = (mark.after first).after second := by
  simp [after]

/-- Reading over a text moves the byte offset by its length. -/
theorem byte_after (mark : Mark) (text : List Char) :
    (mark.after text).byte = mark.byte + utf8Length text := by
  induction text generalizing mark with
  | nil => simp
  | cons c text ih =>
      rw [after_cons, ih, utf8Length_cons]
      simp [next, Nat.add_assoc]

end Mark

/-- The extent of a token or node. -/
structure Span where
  start : Mark
  stop : Mark
deriving DecidableEq

namespace Span

/-- Whether a point lies in the span; the end does not. -/
def contains (span : Span) (point : Point) : Bool :=
  span.start.point ≤ point && point < span.stop.point

/-- Whether a point lies exactly at the end of the span. -/
def endsAt (span : Span) (point : Point) : Bool :=
  span.stop.point == point

end Span

end SetScript.Text
