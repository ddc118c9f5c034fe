import SetScript.Text.Span
import Mathlib.Data.List.DropRight
import Mathlib.Order.Defs.LinearOrder

/-!
# Places reached by reading

Points are linearly ordered by row, then by column.  Reading over a text moves a
mark forward, both in bytes and in points, and a place is determined by the text
before it: its row counts the line feeds of that text, its column measures what
follows the last of them.

Moving a whole text down by some rows moves every place in it alike, as long as
the text starts a row.
-/

namespace SetScript.Text

instance : LinearOrder Point where
  le_refl p := Point.le_iff.mpr (Or.inr ⟨rfl, Nat.le_refl _⟩)
  le_trans p q r first second := by
    rw [Point.le_iff] at first second ⊢
    omega
  lt_iff_le_not_ge p q := by
    rw [Point.lt_iff, Point.le_iff, Point.le_iff]
    omega
  le_antisymm p q first second := by
    rcases p with ⟨row, column⟩
    rcases q with ⟨row', column'⟩
    simp only [Point.le_iff] at first second
    rw [Point.mk.injEq]
    omega
  le_total p q := by
    rw [Point.le_iff, Point.le_iff]
    omega
  toDecidableLE := inferInstance
  toDecidableEq := inferInstance
  toDecidableLT := inferInstance

/-- The part of a text after its last line feed. -/
def lastLine (text : List Char) : List Char :=
  text.rtakeWhile (· != '\n')

@[simp]
theorem lastLine_nil : lastLine [] = [] :=
  List.rtakeWhile_nil _

@[simp]
theorem lastLine_concat_newline (text : List Char) : lastLine (text ++ ['\n']) = [] :=
  List.rtakeWhile_concat_neg _ _ _ (by simp)

theorem lastLine_concat {c : Char} (inLine : c ≠ '\n') (text : List Char) :
    lastLine (text ++ [c]) = lastLine text ++ [c] :=
  List.rtakeWhile_concat_pos _ _ _ (by simpa using inLine)

/-- Text without line feeds goes on with the last line. -/
theorem lastLine_append {text : List Char} (inLine : '\n' ∉ text) (before : List Char) :
    lastLine (before ++ text) = lastLine before ++ text := by
  induction text using List.reverseRecOn with
  | nil => simp
  | append_singleton text c ih =>
      simp only [List.mem_append, List.mem_singleton, not_or] at inLine
      rw [← List.append_assoc, lastLine_concat (Ne.symm inLine.2), ih inLine.1, List.append_assoc]

/-- A text ends with its last line. -/
theorem lastLine_suffix (text : List Char) : lastLine text <:+ text :=
  List.rtakeWhile_suffix _ _

/-- A text that is not empty has a length. -/
theorem utf8Length_pos {text : List Char} (nonempty : text ≠ []) : 0 < utf8Length text := by
  cases text with
  | nil => exact absurd rfl nonempty
  | cons c text =>
      rw [utf8Length_cons]
      exact Nat.add_pos_left (Char.utf8Size_pos c) _

/-- Of two leading parts of a text, the one with fewer bytes leads the other. -/
theorem prefix_of_utf8Length_le {text first second : List Char} (isFirst : first <+: text)
    (isSecond : second <+: text) (shorter : utf8Length first ≤ utf8Length second) :
    first <+: second := by
  rcases List.prefix_or_prefix_of_prefix isFirst isSecond with leading | ⟨rest, rfl⟩
  · exact leading
  · by_cases empty : rest = []
    · simp [empty]
    · rw [utf8Length_append] at shorter
      have positive := utf8Length_pos empty
      omega

/-- The part of a text between the lengths of two leading parts. -/
theorem slice?_utf8Length (before text after : List Char) :
    slice? (before ++ (text ++ after)) (utf8Length before) (utf8Length (before ++ text)) =
      some text := by
  have ordered : utf8Length before ≤ utf8Length (before ++ text) := by
    rw [utf8Length_append]
    exact Nat.le_add_right _ _
  have length : utf8Length (before ++ text) - utf8Length before = utf8Length text := by
    rw [utf8Length_append, Nat.add_sub_cancel_left]
  rw [slice?, if_pos ordered, splitAtByte?_utf8Length, Option.bind_some, length,
    splitAtByte?_utf8Length]
  rfl

namespace Mark

theorem after_concat (mark : Mark) (text : List Char) (c : Char) :
    mark.after (text ++ [c]) = (mark.after text).next c := by
  rw [after_append, after_cons, after_nil]

/-- One more character moves a mark forward. -/
theorem point_lt_next (mark : Mark) (c : Char) : mark.point < (mark.next c).point := by
  rw [Point.lt_iff]
  by_cases newline : c = '\n'
  · exact Or.inl (by simp [next, newline])
  · have positive := Char.utf8Size_pos c
    exact Or.inr (by simp [next, newline, positive])

/-- Reading never moves a mark back. -/
theorem point_le_after (mark : Mark) (text : List Char) :
    mark.point ≤ (mark.after text).point := by
  induction text generalizing mark with
  | nil => exact le_refl _
  | cons c text ih =>
      rw [after_cons]
      exact le_trans (le_of_lt (mark.point_lt_next c)) (ih (mark.next c))

/-- Reading over some text moves a mark forward. -/
theorem point_lt_after (mark : Mark) {text : List Char} (nonempty : text ≠ []) :
    mark.point < (mark.after text).point := by
  cases text with
  | nil => exact absurd rfl nonempty
  | cons c text =>
      rw [after_cons]
      exact lt_of_lt_of_le (mark.point_lt_next c) (point_le_after _ text)

/-- One mark is not behind another, neither in bytes nor in points. -/
instance : LE Mark :=
  ⟨fun first second => first.byte ≤ second.byte ∧ first.point ≤ second.point⟩

/-- One mark is before another, both in bytes and in points. -/
instance : LT Mark :=
  ⟨fun first second => first.byte < second.byte ∧ first.point < second.point⟩

protected theorem le_refl (mark : Mark) : mark ≤ mark :=
  ⟨Nat.le_refl _, le_refl _⟩

protected theorem le_of_lt {first second : Mark} (before : first < second) : first ≤ second :=
  ⟨Nat.le_of_lt before.1, le_of_lt before.2⟩

protected theorem le_trans {first second third : Mark} (before : first ≤ second)
    (after : second ≤ third) : first ≤ third :=
  ⟨Nat.le_trans before.1 after.1, le_trans before.2 after.2⟩

theorem le_after (mark : Mark) (text : List Char) : mark ≤ mark.after text := by
  refine ⟨?_, mark.point_le_after text⟩
  rw [byte_after]
  exact Nat.le_add_right _ _

/-- Reading over some text moves a mark forward in bytes, too. -/
theorem lt_after (mark : Mark) {text : List Char} (nonempty : text ≠ []) :
    mark < mark.after text := by
  refine ⟨?_, mark.point_lt_after nonempty⟩
  rw [byte_after]
  exact Nat.lt_add_of_pos_right (utf8Length_pos nonempty)

/-- Of two leading parts of a document, the one that ends earlier leads the other. -/
theorem prefix_of_point_after_le {source before later : List Char} (first : before <+: source)
    (second : later <+: source)
    (earlier : (origin.after before).point ≤ (origin.after later).point) : before <+: later := by
  rcases List.prefix_or_prefix_of_prefix first second with leading | ⟨text, rfl⟩
  · exact leading
  · by_cases empty : text = []
    · simp [empty]
    · rw [after_append] at earlier
      exact absurd earlier (point_lt_after _ empty).not_ge

/-- The place after a text from the start of the document: the row counts the
line feeds, the column measures the last line. -/
theorem point_after_origin (before : List Char) :
    (origin.after before).point = ⟨before.count '\n', utf8Length (lastLine before)⟩ := by
  induction before using List.reverseRecOn with
  | nil => rfl
  | append_singleton before c ih =>
      rw [after_concat, next, ih]
      by_cases newline : c = '\n'
      · subst newline
        simp
      · simp [newline, lastLine_concat newline]

/-- A mark moved on by some bytes and down by some rows. -/
def shift (bytes rows : Nat) (mark : Mark) : Mark :=
  ⟨mark.byte + bytes, ⟨mark.point.row + rows, mark.point.column⟩⟩

theorem next_shift (bytes rows : Nat) (mark : Mark) (c : Char) :
    (mark.shift bytes rows).next c = (mark.next c).shift bytes rows := by
  by_cases newline : c = '\n'
  · simp [next, shift, newline, Nat.add_right_comm]
  · simp [next, shift, newline, Nat.add_right_comm]

/-- Reading from a shifted mark leads to shifted places. -/
theorem after_shift (bytes rows : Nat) (mark : Mark) (text : List Char) :
    (mark.shift bytes rows).after text = (mark.after text).shift bytes rows := by
  induction text generalizing mark with
  | nil => rfl
  | cons c text ih => rw [after_cons, next_shift, ih, after_cons]

/-- The place after a complete line is the start of the document, shifted. -/
theorem after_newline_eq_shift (before : List Char) :
    origin.after (before ++ ['\n']) =
      origin.shift (utf8Length before + 1) (before.count '\n' + 1) := by
  rw [after_concat, next, byte_after, point_after_origin]
  simp [shift, origin, Point.origin, Char.utf8Size]

end Mark

/-- A span moved on by some bytes and down by some rows. -/
def Span.shift (bytes rows : Nat) (span : Span) : Span :=
  ⟨span.start.shift bytes rows, span.stop.shift bytes rows⟩

end SetScript.Text
