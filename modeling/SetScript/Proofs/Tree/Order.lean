import SetScript.Proofs.Tree.Reading

/-!
# Extents of nodes

A node reaches from the start of its first token to the end of its last one.  So the
order of the tokens of a document carries over to its nodes: a node covers the tokens
below it, and siblings come one after another.
-/

namespace SetScript

open Text

/-- Tokens that are not empty and come one after another. -/
structure Token.Ordered (tokens : List Token) : Prop where
  start_lt_stop : ∀ token ∈ tokens, token.span.start < token.span.stop
  pairwise : tokens.Pairwise fun first second => first.span.stop ≤ second.span.start

namespace Token

/-- The tokens of a document are ordered. -/
theorem ordered_scan (source : List Char) : Ordered (scan source) where
  start_lt_stop token member := by
    obtain ⟨before, after, -, stands⟩ := stands_of_mem_scan member
    exact stands.start_lt_stop
  pairwise := pairwise_scan source

namespace Ordered

variable {tokens : List Token}

theorem sublist {others : List Token} (ordered : Ordered tokens) (sub : others.Sublist tokens) :
    Ordered others :=
  ⟨fun token member => ordered.start_lt_stop token (sub.subset member),
    ordered.pairwise.sublist sub⟩

/-- No token starts before the first one. -/
theorem head_start_le (ordered : Ordered tokens) {first token : Token}
    (head : tokens.head? = some first) (member : token ∈ tokens) :
    first.span.start ≤ token.span.start := by
  obtain ⟨others, rfl⟩ := List.head?_eq_some_iff.mp head
  rcases List.mem_cons.mp member with rfl | later
  · exact Mark.le_refl _
  · have behind := (List.pairwise_cons.mp ordered.pairwise).1 token later
    have proper := ordered.start_lt_stop first List.mem_cons_self
    exact Mark.le_trans (Mark.le_of_lt proper) behind

/-- No token ends behind the last one. -/
theorem stop_le_last (ordered : Ordered tokens) {last token : Token}
    (final : tokens.getLast? = some last) (member : token ∈ tokens) :
    token.span.stop ≤ last.span.stop := by
  obtain ⟨others, rfl⟩ := List.getLast?_eq_some_iff.mp final
  rcases List.mem_append.mp member with earlier | same
  · have before := (List.pairwise_append.mp ordered.pairwise).2.2 token earlier last
      (List.mem_singleton_self last)
    have proper := ordered.start_lt_stop last (by simp)
    exact Mark.le_trans before (Mark.le_of_lt proper)
  · rw [List.mem_singleton.mp same]
    exact Mark.le_refl _

end Ordered

end Token

namespace Node

/-- A branch is put around its children and has a named kind. -/
theorem Formed.exists_enclose {kind : Kind} {span : Span} {children : List Node}
    (formed : Formed (branch kind span children)) :
    kind.isNamed = true ∧
      ∃ first others, branch kind span children = enclose kind first others := by
  cases formed with
  | parenthesized opens => exact ⟨rfl, _, _, rfl⟩
  | arguments opens => exact ⟨rfl, _, _, rfl⟩
  | call identifier opens => exact ⟨rfl, _, _, rfl⟩

theorem Formed.children_ne_nil {kind : Kind} {span : Span} {children : List Node}
    (formed : Formed (branch kind span children)) : children ≠ [] := by
  obtain ⟨-, first, others, shape⟩ := formed.exists_enclose
  rintro rfl
  cases shape

/-- A forest of well-formed nodes over ordered tokens. -/
structure Orderly (nodes : List Node) : Prop where
  formed : ∀ node ∈ traverse nodes, node.Formed
  ordered : Token.Ordered (nodes.flatMap leaves)

/-- A node reaches from its first token to its last one. -/
theorem span_eq_of_formed {node : Node} (formed : ∀ inner ∈ traverse [node], inner.Formed) :
    ∃ first last, node.leaves.head? = some first ∧ node.leaves.getLast? = some last ∧
      node.span = ⟨first.span.start, last.span.stop⟩ := by
  induction node using Node.induction with
  | leaf kind token => exact ⟨token, token, by simp, by simp, rfl⟩
  | branch kind span children ih =>
      rw [traverse_branch_cons, traverse_nil, List.append_nil, List.forall_mem_cons] at formed
      rcases formed with ⟨outer, inner⟩
      have childFormed : ∀ child ∈ children, ∀ below ∈ traverse [child], below.Formed := by
        intro child member below found
        rcases mem_traverse_iff.mp found with ⟨tree, single, here⟩
        rw [List.mem_singleton.mp single] at here
        exact inner below (mem_traverse_iff.mpr ⟨child, member, here⟩)
      obtain ⟨-, first, others, shape⟩ := outer.exists_enclose
      obtain ⟨rfl, rfl⟩ : span = ⟨first.span.start,
          ((first :: others).getLast (by simp)).span.stop⟩ ∧ children = first :: others := by
        simpa [enclose] using shape
      -- The first token lies in the first child, the last one in the last child.
      obtain ⟨initial, whole⟩ :=
        List.getLast?_eq_some_iff.mp (List.getLast?_eq_some_getLast (List.cons_ne_nil first others))
      obtain ⟨head, _, headEq, -, firstSpan⟩ :=
        ih first List.mem_cons_self (childFormed first List.mem_cons_self)
      have lastMember := List.getLast_mem (List.cons_ne_nil first others)
      obtain ⟨_, last, -, lastEq, lastSpan⟩ := ih _ lastMember (childFormed _ lastMember)
      refine ⟨head, last, ?_, ?_, ?_⟩
      · rw [leaves_branch, List.flatMap_cons, List.head?_append, headEq]
        rfl
      · rw [leaves_branch, whole, List.flatMap_append, List.flatMap_singleton,
          List.getLast?_append, lastEq]
        rfl
      · rw [span_branch, firstSpan, lastSpan]

/-- The tokens of a node met in a forest are tokens of the forest, in order. -/
theorem leaves_sublist_of_mem_traverse {node : Node} {nodes : List Node}
    (member : node ∈ traverse nodes) : node.leaves.Sublist (nodes.flatMap leaves) := by
  fun_induction traverse nodes with
  | case1 => cases member
  | case2 first rest ih =>
      rw [List.flatMap_cons]
      rcases List.mem_cons.mp member with rfl | later
      · exact List.sublist_append_left _ _
      · have belowFirst : (first.children.flatMap leaves).Sublist first.leaves := by
          cases first with
          | leaf kind token => exact List.nil_sublist _
          | branch kind span children =>
              rw [leaves_branch]
              exact List.Sublist.refl _
        have found := ih later
        rw [List.flatMap_append] at found
        exact found.trans (belowFirst.append_right _)

namespace Orderly

variable {nodes : List Node} {node : Node}

/-- Every tree that is met in an orderly forest is orderly. -/
theorem below (orderly : Orderly nodes) (member : node ∈ traverse nodes) : Orderly [node] where
  formed inner found := by
    rw [traverse_cons, traverse_nil, List.append_nil] at found
    rcases List.mem_cons.mp found with rfl | deeper
    · exact orderly.formed inner member
    · exact orderly.formed inner (traverse_children_subset member deeper)
  ordered := by
    rw [List.flatMap_singleton]
    exact orderly.ordered.sublist (leaves_sublist_of_mem_traverse member)

/-- Every tree of an orderly forest is orderly. -/
theorem single (orderly : Orderly nodes) (member : node ∈ nodes) : Orderly [node] :=
  orderly.below (mem_traverse_of_mem member)

/-- The children of an orderly tree are orderly. -/
theorem children (orderly : Orderly [node]) : Orderly node.children where
  formed inner found :=
    orderly.formed inner (mem_traverse_iff.mpr ⟨node, List.mem_singleton_self node, .inr found⟩)
  ordered := by
    cases node with
    | leaf kind token => exact orderly.ordered.sublist (List.nil_sublist _)
    | branch kind span children =>
        have ordered := orderly.ordered
        rw [List.flatMap_singleton, leaves_branch] at ordered
        exact ordered

/-- A tree covers its tokens. -/
theorem covers (orderly : Orderly [node]) {token : Token} (member : token ∈ node.leaves) :
    node.span.start ≤ token.span.start ∧ token.span.stop ≤ node.span.stop := by
  obtain ⟨first, last, head, final, span⟩ := span_eq_of_formed orderly.formed
  have ordered := orderly.ordered
  rw [List.flatMap_singleton] at ordered
  rw [span]
  exact ⟨ordered.head_start_le head member, ordered.stop_le_last final member⟩

/-- A tree starts where one of its tokens starts. -/
theorem exists_start_eq (orderly : Orderly [node]) :
    ∃ first ∈ node.leaves, node.span.start = first.span.start := by
  obtain ⟨first, last, head, -, span⟩ := span_eq_of_formed orderly.formed
  exact ⟨first, List.mem_of_mem_head? head, by rw [span]⟩

/-- A tree ends where one of its tokens ends. -/
theorem exists_stop_eq (orderly : Orderly [node]) :
    ∃ last ∈ node.leaves, node.span.stop = last.span.stop := by
  obtain ⟨first, last, -, final, span⟩ := span_eq_of_formed orderly.formed
  exact ⟨last, List.mem_of_getLast? final, by rw [span]⟩

/-- A tree covers every tree below it. -/
theorem span_le (orderly : Orderly [node]) {inner : Node} (member : inner ∈ traverse [node]) :
    node.span.start ≤ inner.span.start ∧ inner.span.stop ≤ node.span.stop := by
  have held := (leaves_sublist_of_mem_traverse member).subset
  rw [List.flatMap_singleton] at held
  obtain ⟨first, firstMember, start⟩ := (orderly.below member).exists_start_eq
  obtain ⟨last, lastMember, stop⟩ := (orderly.below member).exists_stop_eq
  rw [start, stop]
  exact ⟨(orderly.covers (held firstMember)).1, (orderly.covers (held lastMember)).2⟩

/-- A tree is not empty. -/
theorem start_lt_stop (orderly : Orderly [node]) : node.span.start < node.span.stop := by
  obtain ⟨first, member, start⟩ := orderly.exists_start_eq
  have ordered := orderly.ordered
  rw [List.flatMap_singleton] at ordered
  have proper := ordered.start_lt_stop first member
  have covered := (orderly.covers member).2
  rw [start]
  exact ⟨Nat.lt_of_lt_of_le proper.1 covered.1, lt_of_lt_of_le proper.2 covered.2⟩

/-- Siblings come one after another. -/
theorem pairwise_span (orderly : Orderly nodes) :
    nodes.Pairwise fun first second => first.span.stop ≤ second.span.start := by
  refine (List.pairwise_flatMap.mp orderly.ordered.pairwise).2.imp_of_mem ?_
  intro first second firstMember secondMember apart
  obtain ⟨_, last, -, final, firstSpan⟩ := span_eq_of_formed (orderly.single firstMember).formed
  obtain ⟨head, _, start, -, secondSpan⟩ := span_eq_of_formed (orderly.single secondMember).formed
  rw [firstSpan, secondSpan]
  exact apart last (List.mem_of_getLast? final) head (List.mem_of_mem_head? start)

/-- Siblings come one after another, told by their indices. -/
theorem stop_le_start (orderly : Orderly nodes) {first second : Node} {index later : Nat}
    (isFirst : nodes[index]? = some first) (isSecond : nodes[later]? = some second)
    (before : index < later) : first.span.stop ≤ second.span.start := by
  obtain ⟨_, rfl⟩ := List.getElem?_eq_some_iff.mp isFirst
  obtain ⟨_, rfl⟩ := List.getElem?_eq_some_iff.mp isSecond
  exact List.pairwise_iff_getElem.mp orderly.pairwise_span _ _ _ _ before

/-- Between siblings that touch there is no other, because it would be empty. -/
theorem eq_succ_of_touching (orderly : Orderly nodes) {first second : Node} {index later : Nat}
    (isFirst : nodes[index]? = some first) (isSecond : nodes[later]? = some second)
    (before : index < later) (touches : second.span.start.point ≤ first.span.stop.point) :
    later = index + 1 := by
  rcases Nat.lt_or_eq_of_le (Nat.succ_le_of_lt before) with between | next
  · have inside := (List.getElem?_eq_some_iff.mp isSecond).1
    have isMiddle := List.getElem?_eq_getElem (Nat.lt_trans between inside)
    have proper := (orderly.single (List.mem_of_getElem? isMiddle)).start_lt_stop.2
    have afterFirst := (orderly.stop_le_start isFirst isMiddle (Nat.lt_succ_self index)).2
    have beforeSecond := (orderly.stop_le_start isMiddle isSecond between).2
    exact absurd (lt_of_le_of_lt afterFirst (lt_of_lt_of_le proper (le_trans beforeSecond touches)))
      (lt_irrefl _)
  · exact next.symm

end Orderly

end Node

namespace SyntaxTree

/-- The leaves of the root of a document are its tokens. -/
theorem leaves_root_parse (source : String) :
    (parse source).root.leaves = Token.scan source.toList := by
  rw [parse, Node.leaves_branch, Forest.flatMap_leaves_ofTokens]

/-- The nodes of a document are orderly. -/
theorem orderly_parse (source : String) : Node.Orderly (parse source).root.children where
  formed := (Forest.reads_read .document 0 (Token.scan source.toList)).formed
  ordered := by
    have ordered := Token.ordered_scan source.toList
    rw [← leaves_root_parse, parse, Node.leaves_branch] at ordered
    exact ordered

end SyntaxTree

end SetScript
