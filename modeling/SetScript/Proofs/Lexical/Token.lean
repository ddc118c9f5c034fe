import SetScript.Lexical.Token
import SetScript.Proofs.Lexical.Lexeme

/-!
# Tokens in their document

`Layout` says how a list of tokens lies in a text: between two tokens, in front of
the first and behind the last there is nothing but blanks and comments, and each
token is what the scanner cuts off where it stands.  The tokens of a document are
laid out in it, and whatever is known about the places of tokens follows from the
layout alone: each token covers its own text, and tokens come one after another.

Tokens are local to lines, as lexemes are: those of a later line are found by
scanning that line on its own and moving them down.
-/

namespace SetScript

open Text

/-- Text that carries no meaning, in front of some other text: blanks, and comments
that reach up to the end of their line. -/
inductive Trivia (following : List Char) : List Char → Prop
  | nil : Trivia following []
  | blank {c : Char} {gap : List Char} (isBlank : isBlank c = true)
      (others : Trivia following gap) : Trivia following (c :: gap)
  | comment {text gap : List Char} (isComment : IsComment text)
      (atLineEnd : AtLineEnd (gap ++ following)) (others : Trivia following gap) :
      Trivia following (text ++ gap)

namespace Token

/-- How tokens lie in a text that is read from a mark on. -/
inductive Layout : Mark → List Token → List Char → Prop
  | done {mark : Mark} {gap : List Char} (trivia : Trivia [] gap) : Layout mark [] gap
  | token {mark : Mark} {gap text rest : List Char} {kind : TokenKind} {tokens : List Token}
      (trivia : Trivia (text ++ rest) gap) (leads : Lexeme.Leads ⟨.token kind, text⟩ rest)
      (others : Layout ((mark.after gap).after text) tokens rest) :
      Layout mark
        (⟨kind, String.ofList text, ⟨mark.after gap, (mark.after gap).after text⟩⟩ :: tokens)
        (gap ++ (text ++ rest))

/-- A token stands between two parts of its document. -/
structure Stands (token : Token) (before after : List Char) : Prop where
  leads : Lexeme.Leads ⟨.token token.kind, token.text.toList⟩ after
  span_eq : token.span =
    ⟨Mark.origin.after before, (Mark.origin.after before).after token.text.toList⟩

namespace Stands

variable {token : Token} {before after : List Char}

theorem text_ne_nil (stands : token.Stands before after) : token.text.toList ≠ [] :=
  stands.leads.text_ne_nil

theorem newline_not_mem (stands : token.Stands before after) : '\n' ∉ token.text.toList :=
  stands.leads.newline_not_mem LexemeKind.noConfusion

theorem start_lt_stop (stands : token.Stands before after) :
    token.span.start < token.span.stop := by
  rw [stands.span_eq]
  exact Mark.lt_after _ stands.text_ne_nil

theorem byte_start (stands : token.Stands before after) :
    token.span.start.byte = utf8Length before := by
  rw [stands.span_eq, Mark.byte_after]
  exact Nat.zero_add _

theorem byte_stop (stands : token.Stands before after) :
    token.span.stop.byte = utf8Length (before ++ token.text.toList) := by
  rw [stands.span_eq, Mark.byte_after, Mark.byte_after, utf8Length_append]
  exact congrArg (· + _) (Nat.zero_add _)

theorem point_start (stands : token.Stands before after) :
    token.span.start.point = (Mark.origin.after before).point := by
  rw [stands.span_eq]

theorem point_stop (stands : token.Stands before after) :
    token.span.stop.point = (Mark.origin.after (before ++ token.text.toList)).point := by
  rw [stands.span_eq, Mark.after_append]

end Stands

namespace Layout

variable {mark : Mark} {tokens : List Token} {text rest : List Char}

/-- A blank in front of a layout belongs to its first gap. -/
theorem blank {c : Char} (isBlank : isBlank c = true)
    (layout : Layout (mark.next c) tokens rest) : Layout mark tokens (c :: rest) := by
  cases layout with
  | done trivia => exact .done (.blank isBlank trivia)
  | @token _ gap text rest kind tokens trivia leads others =>
      change Layout mark _ ((c :: gap) ++ (text ++ rest))
      exact .token (.blank isBlank trivia) leads others

/-- A comment in front of a layout belongs to its first gap. -/
theorem comment (isComment : IsComment text) (atLineEnd : AtLineEnd rest)
    (layout : Layout (mark.after text) tokens rest) : Layout mark tokens (text ++ rest) := by
  cases layout with
  | done trivia => exact .done (.comment isComment (by simpa using atLineEnd) trivia)
  | @token _ gap _ _ _ _ trivia leads others =>
      rw [← Mark.after_append mark text gap] at others ⊢
      rw [← List.append_assoc]
      exact .token (.comment isComment atLineEnd trivia) leads others

/-- No token of a layout starts before it. -/
theorem mark_le (layout : Layout mark tokens text) :
    ∀ token ∈ tokens, mark ≤ token.span.start := by
  induction layout with
  | done => simp
  | @token mark gap text rest kind tokens trivia leads others ih =>
      intro token member
      rcases List.mem_cons.mp member with rfl | member
      · exact Mark.le_after mark gap
      · have reached := Mark.le_trans (mark.le_after gap) (Mark.le_after _ text)
        exact Mark.le_trans reached (ih token member)

/-- The tokens of a layout come one after another. -/
theorem pairwise (layout : Layout mark tokens text) :
    tokens.Pairwise fun first second => first.span.stop ≤ second.span.start := by
  induction layout with
  | done => exact List.Pairwise.nil
  | token trivia leads others ih => exact List.Pairwise.cons others.mark_le ih

/-- Every token of a layout stands somewhere in the document. -/
theorem stands {before : List Char} (layout : Layout (Mark.origin.after before) tokens text) :
    ∀ token ∈ tokens, ∃ earlier later,
      before ++ text = earlier ++ (token.text.toList ++ later) ∧ token.Stands earlier later := by
  generalize equal : Mark.origin.after before = mark at layout
  induction layout generalizing before with
  | done => simp
  | @token mark gap text rest kind tokens trivia leads others ih =>
      subst equal
      intro token member
      rcases List.mem_cons.mp member with rfl | member
      · refine ⟨before ++ gap, rest, ?_, ?_, ?_⟩
        · simp
        · simpa using leads
        · simp [Mark.after_append]
      · have place : Mark.origin.after (before ++ (gap ++ text)) =
            ((Mark.origin.after before).after gap).after text := by
          rw [Mark.after_append, Mark.after_append]
        obtain ⟨earlier, later, whole, stands⟩ := ih place token member
        exact ⟨earlier, later, by rw [← whole]; simp, stands⟩

end Layout

/-- The tokens placed from a mark on are laid out in the scanned text. -/
theorem layout_place (mark : Mark) (text : List Char) :
    Layout mark (place mark (Lexeme.scan text)) text := by
  fun_induction Lexeme.scan text generalizing mark with
  | case1 => exact .done .nil
  | case2 c rest kind length ih =>
      have leads := Lexeme.leads_kindAt c rest
      have whole : c :: rest = (c :: rest.take length) ++ rest.drop length := by
        rw [List.cons_append, List.take_append_drop]
      cases kindEq : kind with
      | blank =>
          obtain ⟨d, single, isBlank⟩ := leads.blank kindEq
          have single : c :: rest.take length = [d] := single
          rw [whole, single]
          simp only [place]
          exact .blank isBlank (ih _)
      | comment =>
          obtain ⟨isComment, atLineEnd⟩ := leads.comment kindEq
          rw [whole]
          simp only [place]
          exact .comment isComment atLineEnd (ih _)
      | token tokenKind =>
          rw [whole]
          simp only [place]
          refine Layout.token Trivia.nil ?_ (ih _)
          rw [← kindEq]
          exact leads

/-- The tokens of a document are laid out in it. -/
theorem layout_scan (source : List Char) : Layout .origin (scan source) source :=
  layout_place .origin source

/-- The tokens of a document come one after another. -/
theorem pairwise_scan (source : List Char) :
    (scan source).Pairwise fun first second => first.span.stop ≤ second.span.start :=
  (layout_scan source).pairwise

/-- Every token of a document stands somewhere in it. -/
theorem stands_of_mem_scan {source : List Char} {token : Token} (member : token ∈ scan source) :
    ∃ before after, source = before ++ (token.text.toList ++ after) ∧
      token.Stands before after := by
  have layout : Layout (Mark.origin.after []) (scan source) source := layout_scan source
  exact layout.stands token member

/-- A token of a document with the text of a closing parenthesis is one. -/
theorem text_eq_closeParen_iff {source : List Char} {token : Token}
    (member : token ∈ scan source) : token.text = ")" ↔ token.kind = .closeParen := by
  obtain ⟨before, after, -, stands⟩ := stands_of_mem_scan member
  have known := stands.leads.closeParen_iff
  rw [LexemeKind.token.injEq] at known
  rw [known, ← String.toList_inj]
  rfl

/-! ## Tokens of separate lines -/

/-- A token moved on by some bytes and down by some rows. -/
def shift (bytes rows : Nat) (token : Token) : Token :=
  { token with span := token.span.shift bytes rows }

theorem shift_shift (bytes rows moreBytes moreRows : Nat) (token : Token) :
    (token.shift bytes rows).shift moreBytes moreRows =
      token.shift (bytes + moreBytes) (rows + moreRows) := by
  simp [shift, Span.shift, Mark.shift, Nat.add_assoc]

theorem place_append (mark : Mark) (first second : List Lexeme) :
    place mark (first ++ second) =
      place mark first ++ place (mark.after (first.flatMap Lexeme.text)) second := by
  induction first generalizing mark with
  | nil => rfl
  | cons lexeme first ih =>
      cases kind : lexeme.kind <;>
        simp [place, kind, ih, Mark.after_append]

theorem place_shift (bytes rows : Nat) (mark : Mark) (lexemes : List Lexeme) :
    place (mark.shift bytes rows) lexemes = (place mark lexemes).map (shift bytes rows) := by
  induction lexemes generalizing mark with
  | nil => rfl
  | cons lexeme lexemes ih =>
      cases kind : lexeme.kind <;>
        simp [place, kind, Mark.after_shift, ih, shift, Span.shift]

theorem scan_newline (rest : List Char) :
    Lexeme.scan ('\n' :: rest) = ⟨.blank, ['\n']⟩ :: Lexeme.scan rest := by
  rw [Lexeme.scan_cons, Lexeme.kindAt_of_isBlank Lexeme.isBlank_newline]
  rfl

/-- The tokens of a later line are those of the line on its own, moved down. -/
theorem scan_append_newline (text rest : List Char) :
    scan (text ++ '\n' :: rest) =
      scan text ++ (scan rest).map (shift (utf8Length text + 1) (text.count '\n' + 1)) := by
  have moved : (Mark.origin.after text).next '\n' =
      Mark.origin.shift (utf8Length text + 1) (text.count '\n' + 1) := by
    rw [← Mark.after_concat, Mark.after_newline_eq_shift]
  rw [scan, Lexeme.scan_append_newline, place_append, Lexeme.flatMap_text_scan, scan_newline]
  simp only [place, Mark.after_cons, Mark.after_nil]
  rw [moved, place_shift]
  rfl

end Token

end SetScript
