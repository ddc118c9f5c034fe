import SetScript.Proofs.Text.Line
import SetScript.Proofs.Tree.Order

/-!
# Places in a longer document

Every node of a document covers a text of it that is not empty, so both of its ends are
places of the document: they are reached by reading over a leading part.

A place keeps its editor position when the document goes on behind it, and it moves down
with its position when complete lines are put in front of the document.
-/

namespace SetScript

open Text

namespace Text

/-- A mark is reached by reading over a leading part of a document. -/
def Mark.IsIn (mark : Mark) (content : List Char) : Prop :=
  ∃ before, before <+: content ∧ mark = Mark.origin.after before

/-- A span reaches over a text that stands somewhere in a document. -/
def Span.Delimits (span : Span) (content text : List Char) : Prop :=
  ∃ before after, content = before ++ (text ++ after) ∧
    span = ⟨Mark.origin.after before, Mark.origin.after (before ++ text)⟩

namespace Span.Delimits

variable {span : Span} {content text : List Char}

theorem isIn_start (delimits : span.Delimits content text) : span.start.IsIn content := by
  obtain ⟨before, after, rfl, rfl⟩ := delimits
  exact ⟨before, List.prefix_append _ _, rfl⟩

theorem isIn_stop (delimits : span.Delimits content text) : span.stop.IsIn content := by
  obtain ⟨before, after, rfl, rfl⟩ := delimits
  exact ⟨before ++ text, ⟨after, List.append_assoc _ _ _⟩, rfl⟩

theorem byte_stop_le (delimits : span.Delimits content text) :
    span.stop.byte ≤ utf8Length content := by
  obtain ⟨before, after, rfl, rfl⟩ := delimits
  rw [Mark.byte_after, ← List.append_assoc, utf8Length_append _ after]
  exact Nat.le_trans (Nat.le_of_eq (Nat.zero_add _)) (Nat.le_add_right _ _)

/-- The text that a span reaches over can be cut out of the document. -/
theorem slice?_eq (delimits : span.Delimits content text) :
    slice? content span.start.byte span.stop.byte = some text := by
  obtain ⟨before, after, rfl, rfl⟩ := delimits
  rw [Mark.byte_after, Mark.byte_after]
  simp only [Mark.origin, Nat.zero_add]
  exact slice?_utf8Length before text after

end Span.Delimits

/-! ## Longer documents -/

/-- Behind a complete line, the last line of a text is its own. -/
theorem lastLine_append_newline (lines text : List Char) :
    lastLine ((lines ++ ['\n']) ++ text) = lastLine text := by
  induction text using List.reverseRecOn with
  | nil => simp
  | append_singleton text c ih =>
      rw [← List.append_assoc]
      by_cases newline : c = '\n'
      · rw [newline, lastLine_concat_newline, lastLine_concat_newline]
      · rw [lastLine_concat newline, lastLine_concat newline, ih]

/-- Reading over complete lines first moves every place of a text down. -/
theorem Mark.after_newline_append (lines text : List Char) :
    Mark.origin.after ((lines ++ ['\n']) ++ text) =
      (Mark.origin.after text).shift (utf8Length lines + 1) (lines.count '\n' + 1) := by
  rw [after_append, after_newline_eq_shift, after_shift]

namespace Position

/-- A position moved down by some lines. -/
def down (rows : Nat) (position : Position) : Position :=
  ⟨position.line + UInt32.ofNat rows, position.character⟩

/-- Positions that fit keep their distance when they are moved down. -/
theorem toNat_line_down {rows : Nat} {position : Position}
    (fits : position.line.toNat + rows < UInt32.size) :
    (position.down rows).line.toNat = position.line.toNat + rows := by
  rw [down, UInt32.toNat_add,
    UInt32.toNat_ofNat_of_lt' (Nat.lt_of_le_of_lt (Nat.le_add_left _ _) fits)]
  exact Nat.mod_eq_of_lt fits

/-- Positions that fit keep their order when they are moved down. -/
theorem le_down {rows : Nat} {first second : Position}
    (firstFits : first.line.toNat + rows < UInt32.size)
    (secondFits : second.line.toNat + rows < UInt32.size) :
    (first.down rows).le (second.down rows) = first.le second := by
  rw [Bool.eq_iff_iff, le_iff_toNat, le_iff_toNat, toNat_line_down firstFits,
    toNat_line_down secondFits, Nat.add_lt_add_iff_right, Nat.add_right_cancel_iff]
  rfl

/-- A place keeps its position when the document goes on. -/
theorem ofPoint_append {content : List Char} {mark : Mark} (isIn : mark.IsIn content)
    (rest : List Char) : ofPoint (content ++ rest) mark.point = ofPoint content mark.point := by
  obtain ⟨before, ⟨text, rfl⟩, rfl⟩ := isIn
  rw [List.append_assoc, ofPoint_after, ofPoint_after]

/-- The position of a place moves down with the place. -/
theorem ofPoint_shift {content : List Char} {mark : Mark} (isIn : mark.IsIn content)
    (lines : List Char) :
    ofPoint ((lines ++ ['\n']) ++ content)
        (mark.shift (utf8Length lines + 1) (lines.count '\n' + 1)).point =
      (ofPoint content mark.point).down (lines.count '\n' + 1) := by
  obtain ⟨before, ⟨text, rfl⟩, rfl⟩ := isIn
  rw [← Mark.after_newline_append, ← List.append_assoc, ofPoint_after, ofPoint_after, after, after,
    down, lastLine_append_newline, List.count_append, List.count_append, List.count_singleton_self,
    Nat.add_comm, UInt32.ofNat_add]

/-- The line of a place counts line feeds of the document. -/
theorem toNat_line_ofPoint_le {content : List Char} {mark : Mark} (isIn : mark.IsIn content)
    (fits : utf8Length content < UInt32.size) :
    (ofPoint content mark.point).line.toNat ≤ content.count '\n' := by
  obtain ⟨before, ⟨text, rfl⟩, rfl⟩ := isIn
  rw [utf8Length_append] at fits
  rw [ofPoint_after, toNat_line_after (Nat.lt_of_le_of_lt (Nat.le_add_right _ _) fits),
    List.count_append]
  exact Nat.le_add_right _ _

end Position

end Text

/-! ## Nodes -/

/-- A token reaches over its text. -/
theorem Token.Stands.delimits {token : Token} {content before after : List Char}
    (stands : token.Stands before after) (whole : content = before ++ (token.text.toList ++ after)) :
    token.span.Delimits content token.text.toList := by
  refine ⟨before, after, whole, ?_⟩
  rw [stands.span_eq, Mark.after_append]

namespace SyntaxTree

/-- Every node below the root of a document covers a text of the document. -/
theorem exists_delimits {source : String} {node : Node}
    (member : node ∈ (parse source).root.descendants) :
    ∃ text, text ≠ [] ∧ node.span.Delimits source.toList text := by
  have orderly := (orderly_parse source).below member
  have scanned : node.leaves ⊆ Token.scan source.toList := by
    rw [← leaves_root_parse, parse, Node.leaves_branch]
    exact (Node.leaves_sublist_of_mem_traverse member).subset
  obtain ⟨first, last, head, final, span⟩ := Node.span_eq_of_formed orderly.formed
  obtain ⟨before, rest, whole, stands⟩ :=
    Token.stands_of_mem_scan (scanned (List.mem_of_mem_head? head))
  obtain ⟨later, after, laterWhole, laterStands⟩ :=
    Token.stands_of_mem_scan (scanned (List.mem_of_getLast? final))
  have start : node.span.start = Mark.origin.after before := by
    rw [span, stands.span_eq]
  have stop : node.span.stop = Mark.origin.after (later ++ last.text.toList) := by
    rw [span, laterStands.span_eq, Mark.after_append]
  have proper := orderly.start_lt_stop
  rw [start, stop] at proper
  rw [← List.append_assoc] at laterWhole
  -- The first token starts before the last one ends, and the text lies between.
  obtain ⟨text, between⟩ := Mark.prefix_of_point_after_le ⟨_, whole.symm⟩ ⟨_, laterWhole.symm⟩
    (le_of_lt proper.2)
  refine ⟨text, ?_, before, after, ?_, ?_⟩
  · rintro rfl
    rw [← between, List.append_nil] at proper
    exact lt_irrefl _ proper.2
  · rw [laterWhole, ← between, List.append_assoc]
  · rw [between, ← start, ← stop]

/-- The text of a leaf of a document is that of its token. -/
theorem text_leaf {source : String} {kind : Kind} {token : Token}
    (member : .leaf kind token ∈ (parse source).root.descendants) :
    (parse source).text (.leaf kind token) = token.text := by
  obtain ⟨before, after, whole, stands⟩ := Token.stands_of_mem_scan (mem_scan_of_leaf_mem member)
  have delimits : token.span.Delimits source.toList token.text.toList := stands.delimits whole
  rw [SyntaxTree.text, Node.text, content_parse, Node.span, delimits.slice?_eq,
    Option.getD_some, String.ofList_toList]

end SyntaxTree

end SetScript
