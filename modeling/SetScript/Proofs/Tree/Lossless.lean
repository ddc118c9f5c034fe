import SetScript.Proofs.Tree.Reading

/-!
# Nothing is lost

The leaves of a syntax tree, met in document order, are the tokens of its document,
and what lies between the tokens is blanks and comments.  So a tree and the gaps
between its leaves divide the document: every byte lies either in one leaf or in one
gap, and never in two.
-/

namespace SetScript

open Text

namespace Text.Span

/-- Whether a byte offset lies in a span. -/
def covers (span : Span) (offset : Nat) : Bool :=
  span.start.byte ≤ offset && offset < span.stop.byte

variable {start stop : Mark} {offset : Nat}

theorem covers_eq_true (notBefore : start.byte ≤ offset) (notAfter : offset < stop.byte) :
    covers ⟨start, stop⟩ offset = true := by
  simp [covers, notBefore, notAfter]

theorem covers_eq_false_of_lt (before : offset < start.byte) (stop : Mark) :
    covers ⟨start, stop⟩ offset = false := by
  simp [covers, Nat.not_le_of_lt before]

theorem covers_eq_false_of_le (start : Mark) (behind : stop.byte ≤ offset) :
    covers ⟨start, stop⟩ offset = false := by
  simp [covers, Nat.not_lt_of_le behind]

end Text.Span

namespace Token

/-- What lies in front of the first of some tokens, between them, and behind the last
one. -/
def gaps (start : Mark) : List Token → Mark → List Span
  | [], stop => [⟨start, stop⟩]
  | token :: tokens, stop => ⟨start, token.span.start⟩ :: gaps token.span.stop tokens stop

namespace Layout

variable {mark : Mark} {tokens : List Token} {text : List Char}

/-- The gaps of a layout hold blanks and comments. -/
theorem trivia_of_mem_gaps {before : List Char}
    (layout : Layout (Mark.origin.after before) tokens text) :
    ∀ gap ∈ gaps (Mark.origin.after before) tokens (Mark.origin.after (before ++ text)),
      ∃ earlier between later, before ++ text = earlier ++ (between ++ later) ∧
        gap = ⟨Mark.origin.after earlier, Mark.origin.after (earlier ++ between)⟩ ∧
          Trivia later between := by
  generalize equal : Mark.origin.after before = mark at layout
  induction layout generalizing before with
  | @done mark gap trivia =>
      subst equal
      intro span member
      rw [gaps, List.mem_singleton] at member
      exact ⟨before, gap, [], by simp, member, trivia⟩
  | @token mark gap text rest kind tokens trivia leads others ih =>
      subst equal
      have place : Mark.origin.after (before ++ (gap ++ text)) =
          ((Mark.origin.after before).after gap).after text := by
        rw [Mark.after_append, Mark.after_append]
      have whole : before ++ (gap ++ (text ++ rest)) = (before ++ (gap ++ text)) ++ rest := by
        simp
      intro span member
      rw [gaps, List.mem_cons] at member
      rcases member with first | member
      · refine ⟨before, gap, text ++ rest, rfl, ?_, trivia⟩
        rw [first, Mark.after_append]
      · rw [whole] at member ⊢
        exact ih place span member

/-- Nothing of a layout covers what lies before it. -/
theorem countP_covers_eq_zero (layout : Layout mark tokens text) (stop : Mark) {offset : Nat}
    (before : offset < mark.byte) :
    tokens.countP (·.span.covers offset) = 0 ∧
      (gaps mark tokens stop).countP (·.covers offset) = 0 := by
  induction layout with
  | done =>
      rw [gaps, List.countP_singleton, Span.covers_eq_false_of_lt before]
      exact ⟨rfl, rfl⟩
  | @token mark gap text rest kind tokens trivia leads others ih =>
      have beforeToken : offset < (mark.after gap).byte :=
        Nat.lt_of_lt_of_le before (mark.le_after gap).1
      have beforeOthers := Nat.lt_of_lt_of_le beforeToken ((mark.after gap).le_after text).1
      rw [gaps, List.countP_cons, List.countP_cons, Span.covers_eq_false_of_lt beforeToken,
        Span.covers_eq_false_of_lt before]
      exact ih beforeOthers

/-- Every byte of a layout lies in one token or in one gap. -/
theorem countP_covers_add (layout : Layout mark tokens text) {offset : Nat}
    (notBefore : mark.byte ≤ offset) (notAfter : offset < (mark.after text).byte) :
    tokens.countP (·.span.covers offset) +
      (gaps mark tokens (mark.after text)).countP (·.covers offset) = 1 := by
  induction layout with
  | done =>
      rw [gaps, List.countP_singleton, Span.covers_eq_true notBefore notAfter]
      rfl
  | @token mark gap text rest kind tokens trivia leads others ih =>
      have stop : mark.after (gap ++ (text ++ rest)) =
          ((mark.after gap).after text).after rest := by
        rw [Mark.after_append, Mark.after_append]
      rw [stop] at notAfter ⊢
      rw [gaps, List.countP_cons, List.countP_cons]
      -- The byte lies in the first gap, in the first token, or behind both.
      rcases Nat.lt_or_ge offset ((mark.after gap).after text).byte with inside | behind
      · obtain ⟨noToken, noGap⟩ := others.countP_covers_eq_zero
          (((mark.after gap).after text).after rest) inside
        rw [noToken, noGap]
        rcases Nat.lt_or_ge offset (mark.after gap).byte with inGap | inToken
        · rw [Span.covers_eq_false_of_lt inGap, Span.covers_eq_true notBefore inGap]
          rfl
        · rw [Span.covers_eq_true inToken inside, Span.covers_eq_false_of_le mark inToken]
          rfl
      · have behindGap := Nat.le_trans ((mark.after gap).le_after text).1 behind
        rw [Span.covers_eq_false_of_le _ behind, Span.covers_eq_false_of_le _ behindGap]
        exact ih behind notAfter

end Layout

end Token

namespace Node

/-- Among well-formed nodes, those without children are the leaves. -/
theorem map_filter_isEmpty_children {nodes : List Node} (formed : ∀ node ∈ nodes, node.Formed) :
    (nodes.filter (·.children.isEmpty)).map (fun node => (node.token?, node.span)) =
      (nodes.filterMap token?).map fun token => (some token, token.span) := by
  induction nodes with
  | nil => rfl
  | cons node nodes ih =>
      rw [List.forall_mem_cons] at formed
      rcases formed with ⟨first, others⟩
      cases first with
      | leaf fits =>
          rw [List.filter_cons_of_pos rfl, List.filterMap_cons_some (token?_leaf _ _),
            List.map_cons, List.map_cons, ih others]
          rfl
      | parenthesized opens | arguments opens | call identifier opens =>
          rw [List.filter_cons_of_neg (by simp), List.filterMap_cons_none rfl, ih others]

end Node

namespace SyntaxTree

/-- A syntax tree loses nothing of its document.  Its leaves are the tokens, in order;
the tokens are not empty, stand one after another and cover their texts; the gaps hold
blanks and comments; every byte lies in one leaf or in one gap; and no token is left
unread. -/
theorem parse_lossless (source : String) :
    let content := source.toList
    let tokens := Token.scan content
    let leaves := (parse source).root.descendants.filter (·.children.isEmpty)
    let gaps := Token.gaps .origin tokens (parse source).root.span.stop
    leaves.map (fun leaf => (leaf.token?, leaf.span)) =
        tokens.map (fun token => (some token, token.span)) ∧
      (∀ token ∈ tokens, token.span.start < token.span.stop ∧
        slice? content token.span.start.byte token.span.stop.byte = some token.text.toList) ∧
      tokens.Pairwise (fun first second => first.span.stop ≤ second.span.start) ∧
      (∀ gap ∈ gaps, ∃ before between after, content = before ++ (between ++ after) ∧
        gap = ⟨Mark.origin.after before, Mark.origin.after (before ++ between)⟩ ∧
          Trivia after between) ∧
      (∀ offset < utf8Length content,
        leaves.countP (·.span.covers offset) + gaps.countP (·.covers offset) = 1) ∧
      (Forest.read .document 0 tokens).rest = [] := by
  intro content tokens leaves gaps
  have layout : Token.Layout (Mark.origin.after []) tokens content := Token.layout_scan content
  have leaves_eq : leaves.map (fun leaf => (leaf.token?, leaf.span)) =
      tokens.map (fun token => (some token, token.span)) := by
    rw [Node.map_filter_isEmpty_children fun node => formed_of_mem_descendants,
      descendants_root_parse, Node.filterMap_token?_traverse, Forest.flatMap_leaves_ofTokens]
  refine ⟨leaves_eq, ?_, layout.pairwise, layout.trivia_of_mem_gaps, ?_, ?_⟩
  · intro token member
    obtain ⟨before, after, whole, stands⟩ := Token.stands_of_mem_scan member
    refine ⟨stands.start_lt_stop, ?_⟩
    rw [stands.byte_start, stands.byte_stop]
    rw [whole]
    exact slice?_utf8Length before token.text.toList after
  · intro offset inside
    have sameSpans : leaves.map Node.span = tokens.map Token.span := by
      have spans := congrArg (List.map Prod.snd) leaves_eq
      rw [List.map_map, List.map_map] at spans
      exact spans
    have sameCount : leaves.countP (·.span.covers offset) =
        tokens.countP (·.span.covers offset) := by
      have counts := congrArg (List.countP (·.covers offset)) sameSpans
      rw [List.countP_map, List.countP_map] at counts
      exact counts
    have stop : (Mark.origin.after content).byte = utf8Length content := by
      rw [Mark.byte_after]
      exact Nat.zero_add _
    rw [sameCount]
    exact layout.countP_covers_add (Nat.zero_le _) (by
      change offset < (Mark.origin.after content).byte
      rw [stop]
      exact inside)
  · exact (Forest.reads_read .document 0 tokens).rest_eq_nil

end SyntaxTree

end SetScript
