import SetScript.Proofs.Text.Position
import SetScript.Proofs.Tree.Extent
import SetScript.Proofs.Tree.Path

/-!
# Coordinates and lines

The ends of a node carry coordinates that were counted while the document was read.  Editors ask
for lines instead, which are found by splitting the document, and for units on these lines.  Both
views agree: the row of an end is a line of the document, its column is a boundary between two
characters of this line, and its editor position leads back to it.

No leaf reaches over a line feed, so the text of a leaf can be cut out of its line alone.
-/

namespace SetScript

open Text

namespace Text.Mark.IsIn

variable {content : List Char} {mark : Mark}

/-- The coordinates of a place count the text before it. -/
theorem exists_splitAtByte? (isIn : mark.IsIn content) :
    ∃ before after, splitAtByte? mark.byte content = some (before, after) ∧
      mark.point = ⟨before.count '\n', utf8Length (lastLine before)⟩ := by
  rcases isIn with ⟨before, ⟨after, rfl⟩, rfl⟩
  refine ⟨before, after, ?_, Mark.point_after_origin before⟩
  have byte : (Mark.origin.after before).byte = utf8Length before := by
    rw [Mark.byte_after]
    exact Nat.zero_add _
  rw [byte, splitAtByte?_utf8Length]

/-- The row of a place is a line of the document, and its column a place on this line. -/
theorem exists_line? (isIn : mark.IsIn content) :
    ∃ line before after, line? mark.point.row content = some line ∧
      splitAtByte? mark.point.column line = some (before, after) := by
  rcases isIn with ⟨before, ⟨after, rfl⟩, rfl⟩
  rw [Mark.point_after_origin]
  exact ⟨_, _, _, line?_count before after, splitAtByte?_utf8Length _ _⟩

/-- The position of a place leads back to the place. -/
theorem toPoint_ofPoint (isIn : mark.IsIn content) (fits : utf8Length content < UInt32.size) :
    (Position.ofPoint content mark.point).toPoint content = mark.point := by
  rcases isIn with ⟨before, ⟨after, rfl⟩, rfl⟩
  rw [Position.ofPoint_after]
  apply Position.toPoint_after
  rw [utf8Length_append] at fits
  exact Nat.lt_of_le_of_lt (Nat.le_add_right _ _) fits

end Text.Mark.IsIn

/-- A token stands on one row, and its text is a part of this line. -/
theorem Token.Stands.exists_line? {token : Token} {before after : List Char}
    (stands : token.Stands before after) :
    token.span.start.point.row = token.span.stop.point.row ∧
      ∃ line, line? token.span.start.point.row (before ++ (token.text.toList ++ after)) =
          some line ∧
        slice? line token.span.start.point.column token.span.stop.point.column =
          some token.text.toList := by
  rw [stands.point_start, stands.point_stop, Mark.point_after_origin, Mark.point_after_origin,
    List.count_append, List.count_eq_zero_of_not_mem stands.newline_not_mem,
    lastLine_append stands.newline_not_mem]
  exact ⟨rfl, _, line?_count_append stands.newline_not_mem before after,
    slice?_utf8Length _ _ _⟩

namespace SyntaxTree

/-- Both ends of every node are places of the document. -/
theorem isIn_of_follow? {source : String} {path : Path} {node : Node}
    (follows : (parse source).root.follow? path = some node) :
    ∀ mark ∈ [node.span.start, node.span.stop], mark.IsIn source.toList := by
  rw [List.forall_mem_cons, List.forall_mem_singleton]
  cases path with
  | nil =>
      cases follows
      exact ⟨⟨[], List.nil_prefix, rfl⟩, source.toList, List.prefix_refl _, rfl⟩
  | cons index path =>
      have below := Node.mem_descendants_of_follow? follows (List.cons_ne_nil index path)
      rcases exists_delimits below with ⟨text, -, delimits⟩
      exact ⟨delimits.isIn_start, delimits.isIn_stop⟩

/-- The coordinates of a tree agree with the lines of its document. -/
structure LineAligned (tree : SyntaxTree) : Prop where
  /-- The row of an end of a node counts the line feeds before it, and its column the bytes
  behind the last of them. -/
  counts : ∀ path node, tree.root.follow? path = some node →
    ∀ mark ∈ [node.span.start, node.span.stop],
      ∃ before after, splitAtByte? mark.byte tree.content = some (before, after) ∧
        mark.point = ⟨before.count '\n', utf8Length (lastLine before)⟩
  /-- The document has a line with this row, and the column is a boundary between two of its
  characters. -/
  boundaries : ∀ path node, tree.root.follow? path = some node →
    ∀ mark ∈ [node.span.start, node.span.stop],
      ∃ line before after, line? mark.point.row tree.content = some line ∧
        splitAtByte? mark.point.column line = some (before, after)
  /-- A leaf stands on one line and its text is cut out of this line. -/
  leaves : ∀ path leaf, tree.root.follow? path = some leaf → path ≠ [] → leaf.children = [] →
    leaf.span.start.point.row = leaf.span.stop.point.row ∧
      ∃ line, line? leaf.span.start.point.row tree.content = some line ∧
        slice? line leaf.span.start.point.column leaf.span.stop.point.column =
          some (tree.text leaf).toList
  /-- As long as positions can count the document, they lead back to the ends of nodes. -/
  returns : utf8Length tree.content < UInt32.size →
    ∀ path node, tree.root.follow? path = some node →
      ∀ mark ∈ [node.span.start, node.span.stop],
        (Position.ofPoint tree.content mark.point).toPoint tree.content = mark.point

/-- The coordinates of every document agree with its lines. -/
theorem lineAligned_parse (source : String) : (parse source).LineAligned where
  counts path node follows mark isEnd := (isIn_of_follow? follows mark isEnd).exists_splitAtByte?
  boundaries path node follows mark isEnd := (isIn_of_follow? follows mark isEnd).exists_line?
  leaves path leaf follows below childless := by
    have member := Node.mem_descendants_of_follow? follows below
    cases formed_of_mem_descendants member with
    | leaf fits =>
        rcases Token.stands_of_mem_scan (mem_scan_of_leaf_mem member) with
          ⟨before, after, whole, stands⟩
        rw [text_leaf member, content_parse, whole]
        exact stands.exists_line?
    | parenthesized | arguments | call => cases childless
  returns fits path node follows mark isEnd :=
    (isIn_of_follow? follows mark isEnd).toPoint_ofPoint fits

end SyntaxTree

end SetScript
