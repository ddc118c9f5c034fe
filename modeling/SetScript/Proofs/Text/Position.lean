import SetScript.Proofs.Text.Line
import Mathlib.Order.Bounds.Defs

/-!
# Where carets settle

A caret names a place by units, and the place it leads to has a position of its own.  The two
differ only where the caret stands inside of a character or behind its line: then the caret
settles at the next boundary between characters, or at the end of the line.

Settling is a normal form.  A caret that has settled leads to the same place as before, and
carets lead to places in the order in which they stand.  In particular every place of a document
is found again from its position.
-/

namespace SetScript.Text

/-! ## Boundaries between characters -/

/-- The units in front of a place between two characters, or at an end of the line. -/
def IsUnitBoundary (line : List Char) (units : Nat) : Prop :=
  ∃ before, before <+: line ∧ utf16Length before = units

/-- The boundary at which a caret settles: the first one of its line that is not before the
caret, or the end of the line where every boundary is. -/
def SettlesAt (line : List Char) (units boundary : Nat) : Prop :=
  IsLeast {candidate | IsUnitBoundary line candidate ∧ units ≤ candidate} boundary ∨
    (∀ candidate, IsUnitBoundary line candidate → candidate < units) ∧
      boundary = utf16Length line

theorem isUnitBoundary_zero (line : List Char) : IsUnitBoundary line 0 :=
  ⟨[], List.nil_prefix, rfl⟩

/-- A boundary is the start of the line or a boundary behind its first character. -/
theorem isUnitBoundary_cons_iff {c : Char} {line : List Char} {units : Nat} :
    IsUnitBoundary (c :: line) units ↔
      units = 0 ∨ ∃ inner, IsUnitBoundary line inner ∧ units = utf16Width c + inner := by
  constructor
  · rintro ⟨before, leading, rfl⟩
    rcases List.prefix_cons_iff.mp leading with rfl | ⟨inner, rfl, leadingInner⟩
    · exact Or.inl rfl
    · exact Or.inr ⟨utf16Length inner, ⟨inner, leadingInner, rfl⟩, rfl⟩
  · rintro (rfl | ⟨_, ⟨inner, leading, rfl⟩, rfl⟩)
    · exact isUnitBoundary_zero _
    · exact ⟨c :: inner, List.prefix_cons_inj c |>.mpr leading, rfl⟩

/-- A caret at the start of a line stays there. -/
theorem settlesAt_zero (line : List Char) : SettlesAt line 0 0 :=
  Or.inl ⟨⟨isUnitBoundary_zero line, Nat.le_refl 0⟩, fun _ _ => Nat.zero_le _⟩

/-- Behind the first character, a caret settles as it does on the rest of the line. -/
theorem SettlesAt.cons {line : List Char} {c : Char} {units boundary : Nat} (moved : units ≠ 0)
    (settles : SettlesAt line (units - utf16Width c) boundary) :
    SettlesAt (c :: line) units (utf16Width c + boundary) := by
  -- A caret inside of the character has no units left behind it, and settles right behind it.
  rcases settles with ⟨⟨isBoundary, reached⟩, least⟩ | ⟨past, atEnd⟩
  · left
    constructor
    · refine ⟨isUnitBoundary_cons_iff.mpr (Or.inr ⟨boundary, isBoundary, rfl⟩), ?_⟩
      exact Nat.sub_le_iff_le_add'.mp reached
    · rintro candidate ⟨isCandidate, notBefore⟩
      rcases isUnitBoundary_cons_iff.mp isCandidate with rfl | ⟨inner, isInner, rfl⟩
      · exact absurd (Nat.le_zero.mp notBefore) moved
      · apply Nat.add_le_add_left
        exact least ⟨isInner, Nat.sub_le_iff_le_add'.mpr notBefore⟩
  · right
    constructor
    · intro candidate isCandidate
      rcases isUnitBoundary_cons_iff.mp isCandidate with rfl | ⟨inner, isInner, rfl⟩
      · exact Nat.pos_of_ne_zero moved
      · exact Nat.add_lt_of_lt_sub' (past inner isInner)
    · rw [atEnd, utf16Length_cons]

/-! ## Columns of carets -/

@[simp]
theorem byteColumn_zero (line : List Char) : byteColumn line 0 = 0 := by
  cases line <;> rfl

/-- The units in front of a place lead back to the place. -/
theorem byteColumn_utf16Length (before rest : List Char) :
    byteColumn (before ++ rest) (utf16Length before) = utf8Length before := by
  rw [byteColumn_append (Nat.le_refl _), Nat.sub_self, byteColumn_zero, Nat.add_zero]

/-- A caret leads to the place on its line where it settles. -/
theorem exists_settlesAt (line : List Char) (units : Nat) :
    ∃ before after, line = before ++ after ∧ byteColumn line units = utf8Length before ∧
      SettlesAt line units (utf16Length before) := by
  induction line generalizing units with
  | nil =>
      refine ⟨[], [], rfl, rfl, ?_⟩
      by_cases start : units = 0
      · rw [start]
        exact settlesAt_zero []
      · right
        constructor
        · rintro candidate ⟨before, leading, rfl⟩
          rw [List.prefix_nil.mp leading]
          exact Nat.pos_of_ne_zero start
        · rfl
  | cons c line ih =>
      by_cases start : units = 0
      · subst start
        exact ⟨[], c :: line, rfl, byteColumn_zero _, settlesAt_zero _⟩
      · rcases ih (units - utf16Width c) with ⟨before, after, rfl, column, settles⟩
        refine ⟨c :: before, after, rfl, ?_, settles.cons start⟩
        rw [byteColumn, if_neg start, column, utf8Length_cons]

/-- A caret further along a line does not lead further back. -/
theorem byteColumn_mono (line : List Char) {first second : Nat} (ordered : first ≤ second) :
    byteColumn line first ≤ byteColumn line second := by
  induction line generalizing first second with
  | nil => exact Nat.le_refl 0
  | cons c line ih =>
      by_cases start : first = 0
      · rw [start, byteColumn_zero]
        exact Nat.zero_le _
      · have moved : second ≠ 0 := fun atStart => start (Nat.le_zero.mp (atStart ▸ ordered))
        rw [byteColumn, byteColumn, if_neg start, if_neg moved]
        exact Nat.add_le_add_left (ih (Nat.sub_le_sub_right ordered _)) _

/-! ## Lines that fit -/

/-- The units of every line can be counted in 32 bits. -/
def LinesFit (content : List Char) : Prop :=
  ∀ row line, line? row content = some line → utf16Length line < UInt32.size

/-- A line takes no more bytes than its document. -/
theorem utf8Length_le_of_line? {row : Nat} {content line : List Char}
    (found : line? row content = some line) : utf8Length line ≤ utf8Length content := by
  induction row generalizing content with
  | zero =>
      rcases eq_or_exists_of_line?_zero found with ⟨-, rfl | ⟨rest, rfl⟩⟩
      · exact Nat.le_refl _
      · rw [utf8Length_append]
        exact Nat.le_add_right _ _
  | succ row ih =>
      rcases exists_of_line?_succ found with ⟨first, rest, rfl, -, foundRest⟩
      rw [utf8Length_append, utf8Length_cons]
      exact Nat.le_add_left_of_le (Nat.le_add_left_of_le (ih foundRest))

/-- The lines of a document whose bytes can be counted in 32 bits fit. -/
theorem linesFit_of_utf8Length_lt {content : List Char} (fits : utf8Length content < UInt32.size) :
    LinesFit content := by
  intro row line found
  calc
    utf16Length line ≤ utf8Length line := utf16Length_le_utf8Length line
    _ ≤ utf8Length content := utf8Length_le_of_line? found
    _ < UInt32.size := fits

namespace Position

variable {content : List Char} {position : Position}

theorem toPoint_of_line?_eq_some {line : List Char}
    (found : line? position.line.toNat content = some line) :
    position.toPoint content =
      ⟨position.line.toNat, byteColumn line position.character.toNat⟩ := by
  simp only [toPoint, found]

theorem toPoint_of_line?_eq_none (missing : line? position.line.toNat content = none) :
    position.toPoint content = ⟨position.line.toNat, position.character.toNat⟩ := by
  simp only [toPoint, missing]

theorem row_toPoint (content : List Char) (position : Position) :
    (position.toPoint content).row = position.line.toNat := by
  rw [toPoint]
  split <;> rfl

/-- The position of a place on a line. -/
theorem ofPoint_of_line?_eq_some {row : Nat} {before after : List Char}
    (found : line? row content = some (before ++ after)) :
    ofPoint content ⟨row, utf8Length before⟩ =
      ⟨UInt32.ofNat row, UInt32.ofNat (utf16Length before)⟩ := by
  simp only [ofPoint, found, unitColumn_utf8Length]

/-- A position past the last line keeps its numbers. -/
theorem ofPoint_toPoint_of_line?_eq_none
    (missing : line? position.line.toNat content = none) :
    ofPoint content (position.toPoint content) = position := by
  rw [toPoint_of_line?_eq_none missing]
  simp only [ofPoint, missing, UInt32.ofNat_toNat]

/-- A place is found again from its position. -/
theorem toPoint_after {before : List Char} (fits : utf8Length before < UInt32.size)
    (rest : List Char) :
    (after before).toPoint (before ++ rest) = (Mark.origin.after before).point := by
  have found : line? (after before).line.toNat (before ++ rest) =
      some (lastLine before ++ rest.takeWhile (· != '\n')) := by
    rw [toNat_line_after fits, line?_count]
  rw [toPoint_of_line?_eq_some found, toNat_line_after fits, toNat_character_after fits,
    byteColumn_utf16Length, Mark.point_after_origin]

/-- Carets lead to places in the order in which they stand. -/
theorem toPoint_mono {first second : Position} (ordered : first.le second = true)
    (content : List Char) : first.toPoint content ≤ second.toPoint content := by
  rw [le_iff_toNat] at ordered
  rw [Point.le_iff, row_toPoint, row_toPoint]
  rcases ordered with earlier | ⟨sameLine, notBehind⟩
  · exact Or.inl earlier
  · refine Or.inr ⟨sameLine, ?_⟩
    cases found : line? second.line.toNat content with
    | none =>
        rw [toPoint_of_line?_eq_none found, toPoint_of_line?_eq_none (sameLine ▸ found)]
        exact notBehind
    | some line =>
        rw [toPoint_of_line?_eq_some found, toPoint_of_line?_eq_some (sameLine ▸ found)]
        exact byteColumn_mono line notBehind

/-- A caret on a line of the document settles on this line, and stays at its place. -/
theorem exists_settlesAt_of_line? {line : List Char}
    (found : line? position.line.toNat content = some line)
    (fits : utf16Length line < UInt32.size) :
    ∃ boundary, ofPoint content (position.toPoint content) = ⟨position.line, boundary⟩ ∧
      SettlesAt line position.character.toNat boundary.toNat ∧
        toPoint content ⟨position.line, boundary⟩ = position.toPoint content := by
  rcases exists_settlesAt line position.character.toNat with
    ⟨before, after, rfl, column, settles⟩
  have character : (UInt32.ofNat (utf16Length before)).toNat = utf16Length before := by
    apply UInt32.toNat_ofNat_of_lt'
    rw [utf16Length_append] at fits
    exact Nat.lt_of_le_of_lt (Nat.le_add_right _ _) fits
  refine ⟨UInt32.ofNat (utf16Length before), ?_, ?_, ?_⟩
  · rw [toPoint_of_line?_eq_some found, column, ofPoint_of_line?_eq_some found,
      UInt32.ofNat_toNat]
  · rw [character]
    exact settles
  · have place : toPoint content ⟨position.line, UInt32.ofNat (utf16Length before)⟩ = _ :=
      toPoint_of_line?_eq_some found
    rw [place, character, byteColumn_utf16Length, toPoint_of_line?_eq_some found, column]

/-- A caret settles at the first boundary of its line that is not before it, or at the end of the
line; a caret past the last line stays as it is.  Settling changes no place, and carets lead to
places in their order. -/
theorem ofPoint_toPoint_settles {content : List Char} (fits : LinesFit content)
    (position : Position) :
    let settled := ofPoint content (position.toPoint content)
    (∀ line, line? position.line.toNat content = some line →
        settled.line = position.line ∧
          SettlesAt line position.character.toNat settled.character.toNat) ∧
      (line? position.line.toNat content = none →
        position.toPoint content = ⟨position.line.toNat, position.character.toNat⟩ ∧
          settled = position) ∧
      settled.toPoint content = position.toPoint content ∧
      ∀ later : Position, position.le later = true →
        position.toPoint content ≤ later.toPoint content := by
  intro settled
  refine ⟨?_, ?_, ?_, fun later ordered => toPoint_mono ordered content⟩
  · intro line found
    rcases exists_settlesAt_of_line? found (fits _ _ found) with
      ⟨boundary, (isSettled : settled = _), settles, -⟩
    rw [isSettled]
    exact ⟨rfl, settles⟩
  · intro missing
    exact ⟨toPoint_of_line?_eq_none missing, ofPoint_toPoint_of_line?_eq_none missing⟩
  · cases found : line? position.line.toNat content with
    | none => exact congrArg (toPoint content) (ofPoint_toPoint_of_line?_eq_none found)
    | some line =>
        rcases exists_settlesAt_of_line? found (fits _ _ found) with
          ⟨boundary, (isSettled : settled = _), -, samePlace⟩
        rw [isSettled]
        exact samePlace

/-- A caret between the two units of a character settles behind the character. -/
theorem ofPoint_toPoint_settles_pair :
    let content := ['é', '😀', '\n', 'x']
    LinesFit content ∧ line? 0 content = some ['é', '😀'] ∧
      SettlesAt ['é', '😀'] 2 (ofPoint content (toPoint content ⟨0, 2⟩)).character.toNat ∧
        (ofPoint content (toPoint content ⟨0, 2⟩)).character = 3 := by
  intro content
  have fits : LinesFit content := linesFit_of_utf8Length_lt (by decide)
  refine ⟨fits, rfl, ?_, by decide⟩
  exact ((ofPoint_toPoint_settles fits ⟨0, 2⟩).1 _ rfl).2

end Position

end SetScript.Text
