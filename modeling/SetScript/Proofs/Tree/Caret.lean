import SetScript.Proofs.Text.Line
import SetScript.Proofs.Tree.Locate

/-!
# Carets on tokens

A token has an editor position for each of its ends, and in a document whose bytes
can be counted in 32 bits these positions come in the order of the tokens.

Every caret between the two ends of a string literal leads to the literal, also from
the middle of a character of two units.  Such a caret can lead to the very end of the
literal only when no quote closes the literal, and then the line ends there and no
token follows directly.
-/

namespace SetScript

open Text

namespace Token

/-- The position where a token of a document starts. -/
def startPosition (source : List Char) (token : Token) : Position :=
  .ofPoint source token.span.start.point

/-- The position where a token of a document ends. -/
def stopPosition (source : List Char) (token : Token) : Position :=
  .ofPoint source token.span.stop.point

namespace Stands

variable {token : Token} {before after : List Char}

theorem startPosition_eq (stands : token.Stands before after) :
    token.startPosition (before ++ (token.text.toList ++ after)) = Position.after before := by
  rw [startPosition, stands.point_start, Position.ofPoint_after]

theorem stopPosition_eq (stands : token.Stands before after) :
    token.stopPosition (before ++ (token.text.toList ++ after)) =
      Position.after (before ++ token.text.toList) := by
  rw [stopPosition, stands.point_stop, ← List.append_assoc, Position.ofPoint_after]

end Stands

/-- The tokens of a document start at ever later positions. -/
theorem pairwise_startPosition {source : List Char} (fits : utf8Length source < UInt32.size) :
    (scan source).Pairwise fun first second =>
      first.startPosition source < second.startPosition source := by
  refine (pairwise_scan source).imp_of_mem ?_
  intro first second firstMember secondMember apart
  obtain ⟨before, after, whole, stands⟩ := stands_of_mem_scan firstMember
  obtain ⟨later, rest, laterWhole, laterStands⟩ := stands_of_mem_scan secondMember
  have firstPosition := stands.startPosition_eq
  have secondPosition := laterStands.startPosition_eq
  rw [← whole] at firstPosition
  rw [← laterWhole] at secondPosition
  rw [firstPosition, secondPosition]
  refine Position.after_lt_after_of_point_lt ⟨_, whole.symm⟩ ⟨_, laterWhole.symm⟩ fits ?_
  rw [← stands.point_start, ← laterStands.point_start]
  exact lt_of_lt_of_le stands.start_lt_stop.2 apart.2

/-- The tokens of a document end at ever later positions. -/
theorem pairwise_stopPosition {source : List Char} (fits : utf8Length source < UInt32.size) :
    (scan source).Pairwise fun first second =>
      first.stopPosition source < second.stopPosition source := by
  refine (pairwise_scan source).imp_of_mem ?_
  intro first second firstMember secondMember apart
  rcases stands_of_mem_scan firstMember with ⟨before, after, whole, stands⟩
  rcases stands_of_mem_scan secondMember with ⟨later, rest, laterWhole, laterStands⟩
  have firstPosition := stands.stopPosition_eq
  have secondPosition := laterStands.stopPosition_eq
  rw [← whole] at firstPosition
  rw [← laterWhole] at secondPosition
  rw [← List.append_assoc] at whole laterWhole
  rw [firstPosition, secondPosition]
  apply Position.after_lt_after_of_point_lt ⟨_, whole.symm⟩ ⟨_, laterWhole.symm⟩ fits
  rw [← stands.point_stop, ← laterStands.point_stop]
  exact lt_of_le_of_lt apart.2 laterStands.start_lt_stop.2

/-- A token of a document starts at an earlier position than it ends. -/
theorem startPosition_lt_stopPosition {source : List Char} {token : Token}
    (member : token ∈ scan source) (fits : utf8Length source < UInt32.size) :
    token.startPosition source < token.stopPosition source := by
  obtain ⟨before, after, rfl, stands⟩ := stands_of_mem_scan member
  rw [stands.startPosition_eq, stands.stopPosition_eq]
  apply Position.after_lt_after stands.text_ne_nil
  rw [← List.append_assoc, utf8Length_append] at fits
  exact Nat.lt_of_le_of_lt (Nat.le_add_right _ _) fits

/-- Behind a token that ends with its line, no other token starts. -/
theorem start_ne_stop_of_atLineEnd {before after : List Char} {token other : Token}
    (stands : token.Stands before after) (atLineEnd : AtLineEnd after)
    (member : other ∈ scan (before ++ (token.text.toList ++ after))) :
    other.span.start.point ≠ token.span.stop.point := by
  intro same
  obtain ⟨later, rest, whole, otherStands⟩ := stands_of_mem_scan member
  rw [otherStands.point_start, stands.point_stop] at same
  have first : later <+: before ++ (token.text.toList ++ after) := ⟨_, whole.symm⟩
  have second : before ++ token.text.toList <+: before ++ (token.text.toList ++ after) :=
    ⟨after, List.append_assoc _ _ _⟩
  -- Both tokens would meet at one place, and the second one would start with a line feed.
  have forth := Mark.prefix_of_point_after_le first second (le_of_eq same)
  have back := Mark.prefix_of_point_after_le second first (le_of_eq same.symm)
  have place := forth.eq_of_length_le back.length_le
  rw [place, List.append_assoc, List.append_cancel_left_eq, List.append_cancel_left_eq] at whole
  obtain ⟨c, text, cons⟩ := List.exists_cons_of_ne_nil otherStands.text_ne_nil
  have newline : c = '\n' := atLineEnd c (by rw [whole, cons]; rfl)
  apply otherStands.newline_not_mem
  rw [cons, newline]
  exact List.mem_cons_self

/-- A quote takes one unit. -/
theorem utf16Width_of_isQuote {c : Char} (quote : Lexeme.isQuote c = true) :
    utf16Width c = 1 := by
  rw [Lexeme.isQuote, Bool.or_eq_true, beq_iff_eq, beq_iff_eq] at quote
  rcases quote with rfl | rfl <;> rfl

/-- A caret between the ends of a string literal leads to a point of the literal. -/
theorem belongsTo_of_caret {source : List Char} {token : Token} {position : Position}
    (member : token ∈ scan source) (string : token.kind = .string)
    (fits : utf8Length source < UInt32.size)
    (notBefore : (token.startPosition source).le position = true)
    (notAfter : position < token.stopPosition source) :
    Node.BelongsTo (position.toPoint source) token (scan source) := by
  obtain ⟨before, after, rfl, stands⟩ := stands_of_mem_scan member
  rw [stands.startPosition_eq] at notBefore
  rw [stands.stopPosition_eq] at notAfter
  have textFits : utf8Length (before ++ token.text.toList) < UInt32.size := by
    rw [← List.append_assoc, utf8Length_append] at fits
    exact Nat.lt_of_le_of_lt (Nat.le_add_right _ _) fits
  obtain ⟨started, ended⟩ :=
    Position.toPoint_between stands.newline_not_mem textFits notBefore notAfter after
  rw [Node.BelongsTo, stands.point_start, stands.point_stop]
  refine ⟨started, ended.imp_right ?_⟩
  rintro ⟨atEnd, c, last, wide⟩
  refine ⟨atEnd, fun other otherMember => ?_⟩
  rw [atEnd, ← stands.point_stop]
  rcases stands.leads.string (congrArg LexemeKind.token string) with
    ⟨quote, ends, isQuote⟩ | atLineEnd
  · have same : quote = c := Option.some.inj (ends.symm.trans last)
    exact absurd (utf16Width_of_isQuote isQuote) (same ▸ wide)
  · exact start_ne_stop_of_atLineEnd stands atLineEnd otherMember

end Token

/-- A caret between the ends of a string literal is on the literal. -/
theorem SyntaxTree.nodeAt_of_caret {source : String} {token : Token} {position : Position}
    (member : token ∈ Token.scan source.toList) (string : token.kind = .string)
    (fits : utf8Length source.toList < UInt32.size)
    (notBefore : (token.startPosition source.toList).le position = true)
    (notAfter : position < token.stopPosition source.toList) :
    (parse source).nodeAt (position.toPoint source.toList) = .leaf .string token :=
  nodeAt_of_belongsTo (leaf_mem_of_mem_scan member string)
    (Token.belongsTo_of_caret member string fits notBefore notAfter)

end SetScript
