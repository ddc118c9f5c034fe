import SetScript.Text.Position
import SetScript.Proofs.Text.Place

/-!
# Lines and editor positions

Rows found by splitting a document agree with the rows counted while reading it:
the row of a place holds the last line of the text before the place, followed by
the rest of that line.  So a place has an editor position that depends on the text
before it alone, and positions grow with that text as long as they fit into 32
bits.

A caret between the two ends of a piece of a line leads into the piece.  It leads to
the end of the piece only from the middle of a last character of two units.
-/

namespace SetScript.Text

/-! ## Rows -/

theorem line?_zero (text : List Char) : line? 0 text = some (text.takeWhile (· != '\n')) := by
  rw [line?]

theorem line?_succ_newline (row : Nat) (text : List Char) :
    line? (row + 1) ('\n' :: text) = line? row text := by
  simp [line?]

theorem line?_succ_cons {c : Char} (inLine : c ≠ '\n') (row : Nat) (text : List Char) :
    line? (row + 1) (c :: text) = line? (row + 1) text := by
  simp [line?, inLine]

/-- The first row is the whole text, or ends at the first line feed. -/
theorem eq_or_exists_of_line?_zero {text line : List Char} (found : line? 0 text = some line) :
    '\n' ∉ line ∧ (text = line ∨ ∃ rest, text = line ++ '\n' :: rest) := by
  rw [line?_zero, Option.some.injEq] at found
  subst found
  induction text with
  | nil => exact ⟨List.not_mem_nil, Or.inl rfl⟩
  | cons c text ih =>
      by_cases newline : c = '\n'
      · subst newline
        exact ⟨List.not_mem_nil, Or.inr ⟨text, rfl⟩⟩
      · rw [List.takeWhile_cons_of_pos (by simpa using newline)]
        rcases ih with ⟨inLine, whole⟩
        refine ⟨List.not_mem_cons_of_ne_of_not_mem (Ne.symm newline) inLine, ?_⟩
        exact whole.imp (congrArg (c :: ·)) fun ⟨rest, longer⟩ => ⟨rest, congrArg (c :: ·) longer⟩

/-- A later row is a row of what follows the first line feed. -/
theorem exists_of_line?_succ {row : Nat} {text line : List Char}
    (found : line? (row + 1) text = some line) :
    ∃ first rest, text = first ++ '\n' :: rest ∧ '\n' ∉ first ∧ line? row rest = some line := by
  induction text with
  | nil => cases found
  | cons c text ih =>
      by_cases newline : c = '\n'
      · subst newline
        rw [line?_succ_newline] at found
        exact ⟨[], text, rfl, List.not_mem_nil, found⟩
      · rw [line?_succ_cons newline] at found
        rcases ih found with ⟨first, rest, rfl, inLine, foundRest⟩
        exact ⟨c :: first, rest, rfl,
          List.not_mem_cons_of_ne_of_not_mem (Ne.symm newline) inLine, foundRest⟩

/-- Past a line feed, the rows are those of the text after it. -/
theorem line?_append_newline (before rest : List Char) :
    line? (before.count '\n' + 1) (before ++ '\n' :: rest) = line? 0 rest := by
  induction before with
  | nil => exact line?_succ_newline 0 rest
  | cons c before ih =>
      by_cases newline : c = '\n'
      · subst newline
        rw [List.count_cons_self, List.cons_append, line?_succ_newline, ih]
      · rw [List.count_cons_of_ne newline, List.cons_append, line?_succ_cons newline, ih]

/-- The row of a place: the last line before it, and what follows on that line. -/
theorem line?_count (before rest : List Char) :
    line? (before.count '\n') (before ++ rest) =
      some (lastLine before ++ rest.takeWhile (· != '\n')) := by
  induction before using List.reverseRecOn generalizing rest with
  | nil => simp [line?_zero]
  | append_singleton before c ih =>
      rw [List.append_assoc, List.singleton_append]
      by_cases newline : c = '\n'
      · subst newline
        rw [List.count_append, List.count_singleton_self, line?_append_newline, line?_zero,
          lastLine_concat_newline, List.nil_append]
      · have sameRow : (before ++ [c]).count '\n' = before.count '\n' := by
          simp [newline]
        rw [sameRow, ih, lastLine_concat newline, List.append_assoc, List.singleton_append,
          List.takeWhile_cons_of_pos (by simpa using newline)]

/-- The row of a piece of a line: what stands before it, the piece, and what follows it. -/
theorem line?_count_append {text : List Char} (inLine : '\n' ∉ text) (before rest : List Char) :
    line? (before.count '\n') (before ++ (text ++ rest)) =
      some (lastLine before ++ (text ++ rest.takeWhile (· != '\n'))) := by
  rw [line?_count, List.takeWhile_append_of_pos]
  intro c member
  simpa using ne_of_mem_of_not_mem member inLine

/-! ## Columns -/

/-- A character takes no more units than bytes. -/
theorem utf16Width_le_utf8Size (c : Char) : utf16Width c ≤ c.utf8Size := by
  unfold utf16Width
  split
  · exact Char.utf8Size_pos c
  · rename_i wide
    have beyond : ¬ c.val ≤ 0xffff := by
      rw [UInt32.le_iff_toNat_le]
      exact fun small => wide (Nat.lt_succ_of_le small)
    have beyondThree : ¬ c.val ≤ 0x7ff := fun small =>
      beyond (UInt32.le_trans small (by decide))
    have beyondTwo : ¬ c.val ≤ 0x7f := fun small =>
      beyond (UInt32.le_trans small (by decide))
    simp [Char.utf8Size, beyond, beyondThree, beyondTwo]

theorem utf16Length_le_utf8Length (text : List Char) : utf16Length text ≤ utf8Length text := by
  induction text with
  | nil => exact Nat.le_refl _
  | cons c text ih =>
      rw [utf16Length_cons, utf8Length_cons]
      exact Nat.add_le_add (utf16Width_le_utf8Size c) ih

theorem utf16Length_pos {text : List Char} (nonempty : text ≠ []) : 0 < utf16Length text := by
  cases text with
  | nil => exact absurd rfl nonempty
  | cons c text =>
      rw [utf16Length_cons]
      exact Nat.add_pos_left (utf16Width_pos c) _

/-- A text has no more line feeds than bytes. -/
theorem count_newline_le_utf8Length (text : List Char) : text.count '\n' ≤ utf8Length text := by
  induction text with
  | nil => exact Nat.le_refl _
  | cons c text ih =>
      have positive := Char.utf8Size_pos c
      rw [utf8Length_cons, List.count_cons]
      split <;> omega

/-- The units in front of a place on a line are those of the text before it. -/
theorem unitColumn_utf8Length (before rest : List Char) :
    unitColumn (before ++ rest) (utf8Length before) = utf16Length before := by
  have inside : min (utf8Length before) (utf8Length (before ++ rest)) = utf8Length before := by
    rw [utf8Length_append]
    exact Nat.min_eq_left (Nat.le_add_right _ _)
  rw [unitColumn, inside, splitAtByte?_utf8Length]

/-- A column past some text is looked for in what follows it. -/
theorem byteColumn_append {before : List Char} {units : Nat}
    (past : utf16Length before ≤ units) (rest : List Char) :
    byteColumn (before ++ rest) units =
      utf8Length before + byteColumn rest (units - utf16Length before) := by
  induction before generalizing units with
  | nil => simp
  | cons c before ih =>
      have positive := utf16Width_pos c
      rw [utf16Length_cons] at past
      rw [List.cons_append, byteColumn, if_neg (by omega), ih (by omega), utf8Length_cons,
        utf16Length_cons, Nat.sub_sub, Nat.add_assoc]

/-- A column inside some text is not past its end. -/
theorem byteColumn_append_le {text : List Char} {units : Nat}
    (inside : units ≤ utf16Length text) (rest : List Char) :
    byteColumn (text ++ rest) units ≤ utf8Length text := by
  induction text generalizing units with
  | nil =>
      have none : units = 0 := Nat.le_zero.mp inside
      subst none
      cases rest with
      | nil => simp [byteColumn]
      | cons c rest => simp [byteColumn]
  | cons c text ih =>
      rw [List.cons_append, byteColumn]
      split
      · exact Nat.zero_le _
      · rw [utf16Length_cons] at inside
        rw [utf8Length_cons]
        exact Nat.add_le_add_left (ih (by omega)) _

/-- A column before the end of some text is found before the end, unless it lies in
the middle of the last character. -/
theorem byteColumn_append_lt_or_eq {text : List Char} {units : Nat}
    (inside : units < utf16Length text) (rest : List Char) :
    byteColumn (text ++ rest) units < utf8Length text ∨
      byteColumn (text ++ rest) units = utf8Length text ∧
        ∃ c, text.getLast? = some c ∧ utf16Width c ≠ 1 := by
  rcases List.eq_nil_or_concat text with rfl | ⟨init, c, whole⟩
  · exact absurd inside (Nat.not_lt_zero _)
  · rw [List.concat_eq_append] at whole
    by_cases narrow : utf16Width c = 1
    · left
      have inInit : units ≤ utf16Length init := by
        simp only [whole, utf16Length_append, utf16Length_cons, utf16Length_nil, narrow] at inside
        exact Nat.lt_succ_iff.mp inside
      have column := byteColumn_append_le inInit ([c] ++ rest)
      rw [← List.append_assoc, ← whole] at column
      refine Nat.lt_of_le_of_lt column ?_
      rw [whole, utf8Length_append]
      exact Nat.lt_add_of_pos_right (utf8Length_pos (List.cons_ne_nil c []))
    · have column := byteColumn_append_le (Nat.le_of_lt inside) rest
      refine (Nat.lt_or_eq_of_le column).imp_right fun atEnd => ⟨atEnd, c, ?_, narrow⟩
      rw [whole, List.getLast?_concat]

/-! ## Positions of places -/

namespace Position

instance : LT Position :=
  ⟨fun p q => p.line < q.line ∨ (p.line = q.line ∧ p.character < q.character)⟩

instance (p q : Position) : Decidable (p < q) :=
  inferInstanceAs
    (Decidable (p.line < q.line ∨ (p.line = q.line ∧ p.character < q.character)))

theorem lt_iff {p q : Position} :
    p < q ↔ p.line < q.line ∨ (p.line = q.line ∧ p.character < q.character) :=
  Iff.rfl

theorem lt_iff_toNat {p q : Position} :
    p < q ↔ p.line.toNat < q.line.toNat ∨
      (p.line.toNat = q.line.toNat ∧ p.character.toNat < q.character.toNat) := by
  rw [lt_iff, UInt32.lt_iff_toNat_lt, UInt32.lt_iff_toNat_lt, UInt32.toNat_inj]

theorem le_iff_toNat {p q : Position} :
    p.le q = true ↔ p.line.toNat < q.line.toNat ∨
      (p.line.toNat = q.line.toNat ∧ p.character.toNat ≤ q.character.toNat) := by
  simp only [le, Bool.or_eq_true, Bool.and_eq_true, decide_eq_true_eq, beq_iff_eq,
    UInt32.lt_iff_toNat_lt, UInt32.le_iff_toNat_le, UInt32.toNat_inj]

/-- One position is before another exactly when the other is not at most it. -/
theorem lt_iff_not_le {p q : Position} : p < q ↔ q.le p = false := by
  rw [← Bool.not_eq_true, le_iff_toNat, lt_iff_toNat]
  omega

theorem le_refl (p : Position) : p.le p = true :=
  le_iff_toNat.mpr (Or.inr ⟨rfl, Nat.le_refl _⟩)

protected theorem le_of_lt {p q : Position} (before : p < q) : p.le q = true := by
  rw [lt_iff_toNat] at before
  rw [le_iff_toNat]
  omega

/-- Positions that come before each other are the same. -/
protected theorem le_antisymm {p q : Position} (first : p.le q = true) (second : q.le p = true) :
    p = q := by
  rw [le_iff_toNat] at first second
  have sameLine : p.line = q.line := by
    rw [← UInt32.toNat_inj]
    omega
  have sameCharacter : p.character = q.character := by
    rw [← UInt32.toNat_inj]
    omega
  cases p
  cases q
  rw [mk.injEq]
  exact ⟨sameLine, sameCharacter⟩

theorem ne_of_lt {p q : Position} (before : p < q) : p ≠ q := by
  rintro rfl
  rw [lt_iff_not_le, le_refl] at before
  cases before

/-- The position after a text from the start of the document. -/
def after (before : List Char) : Position :=
  ⟨UInt32.ofNat (before.count '\n'), UInt32.ofNat (utf16Length (lastLine before))⟩

/-- The position of a place depends on the text before it alone. -/
theorem ofPoint_after (before rest : List Char) :
    ofPoint (before ++ rest) (Mark.origin.after before).point = after before := by
  rw [Mark.point_after_origin, ofPoint, line?_count]
  simp only [unitColumn_utf8Length, after]

section Fitting

variable {before : List Char} (fits : utf8Length before < UInt32.size)

include fits

theorem toNat_line_after : (after before).line.toNat = before.count '\n' :=
  UInt32.toNat_ofNat_of_lt' (Nat.lt_of_le_of_lt (count_newline_le_utf8Length before) fits)

theorem toNat_character_after :
    (after before).character.toNat = utf16Length (lastLine before) := by
  have suffix : utf8Length (lastLine before) ≤ utf8Length before := by
    obtain ⟨earlier, whole⟩ := lastLine_suffix before
    conv_rhs => rw [← whole, utf8Length_append]
    exact Nat.le_add_left _ _
  have units := utf16Length_le_utf8Length (lastLine before)
  exact UInt32.toNat_ofNat_of_lt' (Nat.lt_of_le_of_lt (Nat.le_trans units suffix) fits)

end Fitting

/-- Positions grow with the text before them. -/
theorem after_lt_after {before text : List Char} (nonempty : text ≠ [])
    (fits : utf8Length (before ++ text) < UInt32.size) : after before < after (before ++ text) := by
  have beforeFits : utf8Length before < UInt32.size := by
    rw [utf8Length_append] at fits
    exact Nat.lt_of_le_of_lt (Nat.le_add_right _ _) fits
  rw [lt_iff_toNat, toNat_line_after fits, toNat_line_after beforeFits,
    toNat_character_after fits, toNat_character_after beforeFits, List.count_append]
  by_cases inLine : '\n' ∈ text
  · exact Or.inl (Nat.lt_add_of_pos_right (List.count_pos_iff.mpr inLine))
  · refine Or.inr ⟨?_, ?_⟩
    · rw [List.count_eq_zero_of_not_mem inLine, Nat.add_zero]
    · rw [lastLine_append inLine, utf16Length_append]
      exact Nat.lt_add_of_pos_right (utf16Length_pos nonempty)

/-- Positions of places in a document are ordered as the places are. -/
theorem after_lt_after_of_point_lt {source before later : List Char} (first : before <+: source)
    (second : later <+: source) (fits : utf8Length source < UInt32.size)
    (earlier : (Mark.origin.after before).point < (Mark.origin.after later).point) :
    after before < after later := by
  obtain ⟨text, rfl⟩ := Mark.prefix_of_point_after_le first second (le_of_lt earlier)
  obtain ⟨rest, rfl⟩ := second
  rw [utf8Length_append] at fits
  apply after_lt_after
  · rintro rfl
    rw [List.append_nil] at earlier
    exact lt_irrefl _ earlier
  · exact Nat.lt_of_le_of_lt (Nat.le_add_right _ _) fits

/-- A caret between the ends of a piece of a line leads into the piece, and to its
end only from the middle of its last character. -/
theorem toPoint_between {before text : List Char} {position : Position}
    (inLine : '\n' ∉ text) (fits : utf8Length (before ++ text) < UInt32.size)
    (notBefore : (after before).le position = true) (notAfter : position < after (before ++ text))
    (rest : List Char) :
    let point := position.toPoint (before ++ (text ++ rest))
    (Mark.origin.after before).point ≤ point ∧
      (point < (Mark.origin.after (before ++ text)).point ∨
        point = (Mark.origin.after (before ++ text)).point ∧
          ∃ c, text.getLast? = some c ∧ utf16Width c ≠ 1) := by
  intro point
  have beforeFits : utf8Length before < UInt32.size := by
    rw [utf8Length_append] at fits
    exact Nat.lt_of_le_of_lt (Nat.le_add_right _ _) fits
  have sameRow : (before ++ text).count '\n' = before.count '\n' := by
    rw [List.count_append, List.count_eq_zero_of_not_mem inLine, Nat.add_zero]
  rw [le_iff_toNat, toNat_line_after beforeFits, toNat_character_after beforeFits] at notBefore
  rw [lt_iff_toNat, toNat_line_after fits, toNat_character_after fits, sameRow,
    lastLine_append inLine, utf16Length_append] at notAfter
  have row : position.line.toNat = before.count '\n' := by omega
  -- The caret stands `offset` units behind the start of the piece.
  obtain ⟨offset, character⟩ : ∃ offset,
      position.character.toNat = utf16Length (lastLine before) + offset :=
    Nat.exists_eq_add_of_le (by omega)
  have inside : offset < utf16Length text := by omega
  have point_eq : point =
      ⟨before.count '\n', utf8Length (lastLine before) +
        byteColumn (text ++ rest.takeWhile (· != '\n')) offset⟩ := by
    simp only [point, toPoint, row, line?_count_append inLine, character]
    rw [byteColumn_append (Nat.le_add_right _ _), Nat.add_sub_cancel_left]
  rw [point_eq, Mark.point_after_origin, Mark.point_after_origin, sameRow,
    lastLine_append inLine, utf8Length_append, Point.le_iff, Point.lt_iff, Point.mk.injEq]
  constructor
  · exact Or.inr ⟨rfl, Nat.le_add_right _ _⟩
  · rcases byteColumn_append_lt_or_eq inside (rest.takeWhile (· != '\n')) with
      earlier | ⟨atEnd, wide⟩
    · exact Or.inl (Or.inr ⟨rfl, Nat.add_lt_add_left earlier _⟩)
    · exact Or.inr ⟨⟨rfl, congrArg _ atEnd⟩, wide⟩

end Position

end SetScript.Text
