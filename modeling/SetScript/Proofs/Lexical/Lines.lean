import SetScript.Tree.SyntaxTree
import SetScript.Proofs.Lexical.Token
import SetScript.Proofs.Text.Line

/-!
# Tokens line by line

Scanning carries nothing over a line feed: neither a quote, an escape, a comment nor a run of
unknown characters.  So two texts with a line feed between them have the tokens of the first and,
moved down, those of the second, and the tokens that start on some row are those of the line with
this row, scanned as a document of its own.
-/

namespace SetScript

open Text

namespace Token

/-- The tokens that start on a row. -/
def onRow (row : Nat) (tokens : List Token) : List Token :=
  tokens.filter (·.span.start.point.row == row)

theorem onRow_append (row : Nat) (first second : List Token) :
    onRow row (first ++ second) = onRow row first ++ onRow row second :=
  List.filter_append first second

/-- Tokens that were moved down are found on the rows that they were moved to. -/
theorem onRow_map_shift (row bytes rows : Nat) (tokens : List Token) :
    onRow (row + rows) (tokens.map (shift bytes rows)) =
      (onRow row tokens).map (shift bytes rows) := by
  have sameRow : (fun token : Token => (shift bytes rows token).span.start.point.row == row + rows)
      = fun token => token.span.start.point.row == row := by
    funext token
    rw [Bool.eq_iff_iff, beq_iff_eq, beq_iff_eq]
    exact Nat.add_right_cancel_iff
  rw [onRow, List.filter_map, Function.comp_def, sameRow, onRow]

/-- No token is left on the rows above those that the tokens were moved to. -/
theorem onRow_map_shift_of_lt {row rows : Nat} (above : row < rows) (bytes : Nat)
    (tokens : List Token) : onRow row (tokens.map (shift bytes rows)) = [] := by
  rw [onRow, List.filter_eq_nil_iff]
  intro moved member
  rcases List.mem_map.mp member with ⟨token, -, rfl⟩
  rw [beq_iff_eq]
  exact Nat.ne_of_gt (Nat.lt_of_lt_of_le above (Nat.le_add_left _ _))

theorem shift_zero (token : Token) : token.shift 0 0 = token :=
  rfl

/-- The tokens of a single line start on the first row. -/
theorem row_eq_zero_of_mem_scan {line : List Char} (single : '\n' ∉ line) {token : Token}
    (member : token ∈ scan line) : token.span.start.point.row = 0 := by
  rcases stands_of_mem_scan member with ⟨before, after, rfl, stands⟩
  rw [stands.point_start, Mark.point_after_origin]
  exact List.count_eq_zero_of_not_mem fun early => single (List.mem_append_left _ early)

theorem onRow_zero_scan {line : List Char} (single : '\n' ∉ line) :
    onRow 0 (scan line) = scan line := by
  rw [onRow, List.filter_eq_self]
  intro token member
  rw [row_eq_zero_of_mem_scan single member]
  rfl

theorem onRow_succ_scan {line : List Char} (single : '\n' ∉ line) (row : Nat) :
    onRow (row + 1) (scan line) = [] := by
  rw [onRow, List.filter_eq_nil_iff]
  intro token member
  rw [row_eq_zero_of_mem_scan single member, beq_iff_eq]
  exact Nat.zero_ne_add_one row

/-- The tokens on a row are those of its line. -/
theorem exists_onRow_scan_eq {row : Nat} {content line : List Char}
    (found : line? row content = some line) :
    ∃ bytes, onRow row (scan content) = (scan line).map (shift bytes row) := by
  induction row generalizing content with
  | zero =>
      refine ⟨0, ?_⟩
      rw [List.map_congr_left fun token _ => shift_zero token, List.map_id']
      rcases eq_or_exists_of_line?_zero found with ⟨single, rfl | ⟨rest, rfl⟩⟩
      · exact onRow_zero_scan single
      · rw [scan_append_newline, onRow_append, onRow_zero_scan single,
          onRow_map_shift_of_lt (Nat.succ_pos _), List.append_nil]
  | succ row ih =>
      rcases exists_of_line?_succ found with ⟨first, rest, rfl, single, foundRest⟩
      rcases ih foundRest with ⟨bytes, onRest⟩
      -- Everything behind the first line feed stands one row further down than it does alone.
      refine ⟨bytes + (utf8Length first + 1), ?_⟩
      rw [scan_append_newline, List.count_eq_zero_of_not_mem single, onRow_append,
        onRow_succ_scan single, List.nil_append, Nat.zero_add, onRow_map_shift, onRest,
        List.map_map]
      exact List.map_congr_left fun token _ => shift_shift _ _ _ _ token

/-- Scanning is local to lines.  Two texts with a line feed between them have the tokens of the
first and, moved down, those of the second, and end where the second ends, moved down; and the
tokens on each row are those of its line alone. -/
theorem scan_line_by_line (first second : String) :
    scan (first ++ "\n" ++ second).toList =
        scan first.toList ++ (scan second.toList).map
          (shift (utf8Length first.toList + 1) (first.toList.count '\n' + 1)) ∧
      (SyntaxTree.parse (first ++ "\n" ++ second)).root.span.stop =
        (SyntaxTree.parse second).root.span.stop.shift
          (utf8Length first.toList + 1) (first.toList.count '\n' + 1) ∧
      ∀ row line, line? row (first ++ "\n" ++ second).toList = some line →
        ∃ offset, onRow row (scan (first ++ "\n" ++ second).toList) =
          (scan line).map (shift offset row) := by
  have content : (first ++ "\n" ++ second).toList =
      first.toList ++ '\n' :: second.toList := by
    simp
  refine ⟨?_, ?_, fun row line found => exists_onRow_scan_eq found⟩
  · rw [content]
    exact scan_append_newline first.toList second.toList
  · change Mark.origin.after (first ++ "\n" ++ second).toList =
      (Mark.origin.after second.toList).shift _ _
    rw [content, List.append_cons, Mark.after_append, Mark.after_newline_eq_shift,
      Mark.after_shift]

/-- A quote that nothing closes, and an escape at the end of its line, leave the next line alone. -/
theorem scan_line_by_line_open_quote :
    let whole := "get(\"a\\" ++ "\n" ++ "b\")"
    line? 1 whole.toList = some ['b', '\x22', ')'] ∧
      (∃ offset, onRow 1 (scan whole.toList) =
        (scan ['b', '\x22', ')']).map (shift offset 1)) ∧
      (onRow 1 (scan whole.toList)).map Token.kind = [.identifier, .string] := by
  intro whole
  have found : line? 1 whole.toList = some ['b', '\x22', ')'] := by decide
  exact ⟨found, (scan_line_by_line "get(\"a\\" "b\")").2.2 1 _ found, by decide +kernel⟩

end Token

end SetScript
