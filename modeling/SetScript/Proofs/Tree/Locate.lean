import SetScript.Proofs.Tree.Path

/-!
# Searching for a point

The search for a point goes down the tree greedily and never goes back.  It does not have
to: siblings cover different parts of the document, so at most one child contains the
point and at most one ends there.

A named node that contains the point is passed on the way.  A leaf that ends at the point
is found when no leaf contains the point, whatever its kind.  Where a point is neither
inside nor at the end of a leaf, the search stops at a node that contains it.
-/

namespace SetScript.Node

open Text

theorem contains_iff {span : Span} {point : Point} :
    span.contains point = true ↔ span.start.point ≤ point ∧ point < span.stop.point := by
  simp [Span.contains]

theorem contains_eq_false_iff {span : Span} {point : Point} :
    span.contains point = false ↔ (span.start.point ≤ point → span.stop.point ≤ point) := by
  rw [← Bool.not_eq_true, contains_iff, not_and, not_lt]

theorem endsAt_iff {span : Span} {point : Point} :
    span.endsAt point = true ↔ span.stop.point = point := by
  simp [Span.endsAt]

theorem endsAt_eq_false_iff {span : Span} {point : Point} :
    span.endsAt point = false ↔ span.stop.point ≠ point := by
  rw [← Bool.not_eq_true, endsAt_iff]

/-! ## One level of the search -/

section Level

variable {before after : List Node} {child : Node} {point : Point}

/-- Nothing is found among nodes that do not qualify. -/
theorem find?_zipIdx_eq_none (qualifies : Node → Bool) {nodes : List Node} (start : Nat)
    (others : ∀ node ∈ nodes, qualifies node = false) :
    (nodes.zipIdx start).find? (fun indexed => qualifies indexed.1) = none := by
  rw [List.find?_eq_none]
  intro indexed member
  rw [others _ (List.fst_mem_of_mem_zipIdx member)]
  exact Bool.false_ne_true

/-- Nothing is found from behind among nodes that do not qualify. -/
theorem find?_reverse_zipIdx_eq_none (qualifies : Node → Bool) {nodes : List Node} (start : Nat)
    (others : ∀ node ∈ nodes, qualifies node = false) :
    ((nodes.zipIdx start).reverse).find? (fun indexed => qualifies indexed.1) = none := by
  rw [List.find?_eq_none]
  intro indexed member
  rw [others _ (List.fst_mem_of_mem_zipIdx (List.mem_reverse.mp member))]
  exact Bool.false_ne_true

/-- The first child that qualifies is found. -/
theorem find?_zipIdx_eq_some (qualifies : Node → Bool) (found : qualifies child = true)
    (others : ∀ node ∈ before, qualifies node = false) (after : List Node) :
    ((before ++ child :: after).zipIdx).find? (fun indexed => qualifies indexed.1) =
      some (child, before.length) := by
  rw [List.zipIdx_append, List.find?_append, find?_zipIdx_eq_none qualifies 0 others,
    Option.none_or, List.zipIdx_cons, List.find?_cons_of_pos (by exact found), Nat.zero_add]

/-- The last child that qualifies is found from behind. -/
theorem find?_reverse_zipIdx_eq_some (qualifies : Node → Bool) (found : qualifies child = true)
    (before : List Node) (others : ∀ node ∈ after, qualifies node = false) :
    ((before ++ child :: after).zipIdx.reverse).find? (fun indexed => qualifies indexed.1) =
      some (child, before.length) := by
  rw [List.zipIdx_append, List.zipIdx_cons, List.reverse_append, List.reverse_cons,
    List.append_assoc, List.find?_append, find?_reverse_zipIdx_eq_none qualifies _ others,
    Option.none_or, List.singleton_append, List.find?_cons_of_pos (by exact found), Nat.zero_add]

/-- The first named child that contains the point is entered. -/
theorem childAt?_of_contains (named : child.isNamed = true)
    (contains : child.span.contains point = true)
    (others : ∀ node ∈ before, node.span.contains point = false) :
    childAt? (before ++ child :: after) point = some (child, before.length) := by
  have first := find?_zipIdx_eq_some (fun node => node.isNamed && node.span.contains point)
    (by rw [named, contains, Bool.and_self])
    (fun node member => by rw [others node member, Bool.and_false]) after
  rw [childAt?]
  exact congrArg (Option.or · _) first

/-- Where no named child contains the point, the last named child that ends there is
entered. -/
theorem childAt?_of_endsAt (named : child.isNamed = true)
    (ends : child.span.endsAt point = true)
    (outside : ∀ node ∈ before ++ child :: after, node.isNamed = true →
      node.span.contains point = false)
    (others : ∀ node ∈ after, node.span.endsAt point = false) :
    childAt? (before ++ child :: after) point = some (child, before.length) := by
  have first := find?_zipIdx_eq_none (fun node => node.isNamed && node.span.contains point) 0
    (fun node member => Bool.and_eq_false_imp.mpr (outside node member))
  have second := find?_reverse_zipIdx_eq_some (fun node => node.isNamed && node.span.endsAt point)
    (by rw [named, ends, Bool.and_self]) before
    (fun node member => by rw [others node member, Bool.and_false])
  rw [childAt?]
  refine (congrArg (Option.or · _) first).trans ?_
  rw [Option.none_or]
  exact congrArg (Option.or · _) second

/-- Where no named child contains the point or ends there, the first punctuation that
contains it is entered. -/
theorem childAt?_of_punctuation_contains (unnamed : child.isNamed = false)
    (contains : child.span.contains point = true)
    (outside : ∀ node ∈ before ++ child :: after, node.isNamed = true →
      node.span.contains point = false ∧ node.span.endsAt point = false)
    (others : ∀ node ∈ before, node.span.contains point = false) :
    childAt? (before ++ child :: after) point = some (child, before.length) := by
  have first := find?_zipIdx_eq_none (fun node => node.isNamed && node.span.contains point) 0
    (fun node member => Bool.and_eq_false_imp.mpr fun named => (outside node member named).1)
  have second := find?_reverse_zipIdx_eq_none
    (fun node => node.isNamed && node.span.endsAt point) 0
    (fun node member => Bool.and_eq_false_imp.mpr fun named => (outside node member named).2)
  have third := find?_zipIdx_eq_some (fun node => !node.isNamed && node.span.contains point)
    (by rw [unnamed, contains, Bool.not_false, Bool.and_self])
    (fun node member => by rw [others node member, Bool.and_false]) after
  rw [childAt?]
  refine (congrArg (Option.or · _) first).trans ?_
  rw [Option.none_or]
  refine (congrArg (Option.or · _) second).trans ?_
  rw [Option.none_or]
  exact congrArg (Option.or · _) third

/-- Where no child contains the point and no named child ends there, the last punctuation
that ends there is entered. -/
theorem childAt?_of_punctuation_endsAt (unnamed : child.isNamed = false)
    (ends : child.span.endsAt point = true)
    (outside : ∀ node ∈ before ++ child :: after, node.span.contains point = false)
    (others : ∀ node ∈ before ++ after, node.span.endsAt point = false) :
    childAt? (before ++ child :: after) point = some (child, before.length) := by
  have noNamed : ∀ node ∈ before ++ child :: after,
      (node.isNamed && node.span.endsAt point) = false := by
    intro node member
    rcases List.mem_append.mp member with earlier | later
    · rw [others node (List.mem_append_left _ earlier), Bool.and_false]
    · rcases List.mem_cons.mp later with rfl | later
      · rw [unnamed, Bool.false_and]
      · rw [others node (List.mem_append_right _ later), Bool.and_false]
  have first := find?_zipIdx_eq_none (fun node => node.isNamed && node.span.contains point) 0
    (fun node member => by rw [outside node member, Bool.and_false])
  have second := find?_reverse_zipIdx_eq_none
    (fun node => node.isNamed && node.span.endsAt point) 0 noNamed
  have third := find?_zipIdx_eq_none (fun node => !node.isNamed && node.span.contains point) 0
    (fun node member => by rw [outside node member, Bool.and_false])
  have fourth := find?_reverse_zipIdx_eq_some
    (fun node => !node.isNamed && node.span.endsAt point)
    (by rw [unnamed, ends, Bool.not_false, Bool.and_self]) before
    (fun node member => by rw [others node (List.mem_append_right _ member), Bool.and_false])
  rw [childAt?]
  refine (congrArg (Option.or · _) first).trans ?_
  rw [Option.none_or]
  refine (congrArg (Option.or · _) second).trans ?_
  rw [Option.none_or]
  refine (congrArg (Option.or · _) third).trans ?_
  rw [Option.none_or]
  exact fourth

/-- The child that is entered contains the point or ends there. -/
theorem childAt?_eq_some {nodes : List Node} {index : Nat}
    (entered : childAt? nodes point = some (child, index)) :
    nodes[index]? = some child ∧
      (child.span.contains point = true ∨ child.span.endsAt point = true) := by
  have qualified : (child, index) ∈ nodes.zipIdx ∧
      (child.span.contains point = true ∨ child.span.endsAt point = true) := by
    simp only [childAt?, Option.or_eq_some_iff] at entered
    rcases entered with found | ⟨-, found | ⟨-, found | ⟨-, found⟩⟩⟩
    all_goals
      have holds := List.find?_some found
      rw [Bool.and_eq_true] at holds
    · exact ⟨List.mem_of_find?_eq_some found, Or.inl holds.2⟩
    · exact ⟨List.mem_reverse.mp (List.mem_of_find?_eq_some found), Or.inr holds.2⟩
    · exact ⟨List.mem_of_find?_eq_some found, Or.inl holds.2⟩
    · exact ⟨List.mem_reverse.mp (List.mem_of_find?_eq_some found), Or.inr holds.2⟩
  exact ⟨List.mem_zipIdx_iff_getElem?.mp qualified.1, qualified.2⟩

end Level

/-! ## One level of an orderly tree -/

namespace Orderly

section Level

variable {before after : List Node} {child : Node} {point : Point}
  (orderly : Orderly (before ++ child :: after))

include orderly

theorem stop_le_of_mem_before {node : Node} (member : node ∈ before) :
    node.span.stop ≤ child.span.start :=
  (List.pairwise_append.mp orderly.pairwise_span).2.2 node member child List.mem_cons_self

theorem stop_le_of_mem_after {node : Node} (member : node ∈ after) :
    child.span.stop ≤ node.span.start :=
  (List.pairwise_cons.mp (List.pairwise_append.mp orderly.pairwise_span).2.1).1 node member

/-- At most one child contains a point. -/
theorem contains_eq_false_of_sibling (contains : child.span.contains point = true) :
    ∀ node ∈ before ++ after, node.span.contains point = false := by
  obtain ⟨started, notEnded⟩ := contains_iff.mp contains
  intro node member
  rw [contains_eq_false_iff]
  intro nodeStarted
  rcases List.mem_append.mp member with earlier | later
  · exact le_trans (orderly.stop_le_of_mem_before earlier).2 started
  · have behind := lt_of_lt_of_le notEnded (orderly.stop_le_of_mem_after later).2
    exact absurd nodeStarted behind.not_ge

/-- At most one child ends at a point. -/
theorem endsAt_eq_false_of_sibling (ends : child.span.stop.point = point) :
    ∀ node ∈ before ++ after, node.span.endsAt point = false := by
  intro node member
  rw [endsAt_eq_false_iff]
  rcases List.mem_append.mp member with earlier | later
  · have orderlyChild : Orderly [child] := orderly.single (by simp)
    have proper := orderlyChild.start_lt_stop.2
    rw [ends] at proper
    exact (lt_of_le_of_lt (orderly.stop_le_of_mem_before earlier).2 proper).ne
  · have orderlyNode : Orderly [node] := orderly.single (by simp [later])
    have proper := orderlyNode.start_lt_stop.2
    have behind := (orderly.stop_le_of_mem_after later).2
    rw [ends] at behind
    exact (lt_of_le_of_lt behind proper).ne'

/-- A child other than the one that ends at a point can contain it only by starting
there. -/
theorem start_eq_of_contains (ends : child.span.stop.point = point) {node : Node}
    (member : node ∈ before ++ child :: after) (contains : node.span.contains point = true) :
    node.span.start.point = point := by
  obtain ⟨started, notEnded⟩ := contains_iff.mp contains
  rcases List.mem_append.mp member with earlier | later
  · have orderlyChild : Orderly [child] := orderly.single (by simp)
    have proper := orderlyChild.start_lt_stop.2
    rw [ends] at proper
    have ended := lt_of_le_of_lt (orderly.stop_le_of_mem_before earlier).2 proper
    exact absurd notEnded ended.not_gt
  · rcases List.mem_cons.mp later with rfl | later
    · exact absurd ends notEnded.ne'
    · have behind := (orderly.stop_le_of_mem_after later).2
      rw [ends] at behind
      exact le_antisymm started behind

end Level

variable {nodes : List Node} {child : Node} {index : Nat} {point : Point}

/-- The named child that contains the point is entered. -/
theorem childAt?_of_contains (orderly : Orderly nodes) (isChild : nodes[index]? = some child)
    (named : child.isNamed = true) (contains : child.span.contains point = true) :
    childAt? nodes point = some (child, index) := by
  obtain ⟨before, after, rfl, rfl⟩ := exists_split_of_getElem? isChild
  apply Node.childAt?_of_contains named contains
  intro node member
  exact orderly.contains_eq_false_of_sibling contains node (List.mem_append_left _ member)

/-- The named child that ends at the point is entered, unless a named child contains the
point. -/
theorem childAt?_of_endsAt (orderly : Orderly nodes) (isChild : nodes[index]? = some child)
    (named : child.isNamed = true) (ends : child.span.stop.point = point)
    (outside : ∀ node ∈ nodes, node.isNamed = true → node.span.contains point = false) :
    childAt? nodes point = some (child, index) := by
  obtain ⟨before, after, rfl, rfl⟩ := exists_split_of_getElem? isChild
  apply Node.childAt?_of_endsAt named (endsAt_iff.mpr ends) outside
  intro node member
  exact orderly.endsAt_eq_false_of_sibling ends node (List.mem_append_right _ member)

/-- Punctuation that contains the point is entered, unless a named child ends there. -/
theorem childAt?_of_punctuation_contains (orderly : Orderly nodes)
    (isChild : nodes[index]? = some child) (unnamed : child.isNamed = false)
    (contains : child.span.contains point = true)
    (apart : ∀ node ∈ nodes, node.isNamed = true → node.span.stop.point ≠ point) :
    childAt? nodes point = some (child, index) := by
  obtain ⟨before, after, rfl, rfl⟩ := exists_split_of_getElem? isChild
  have outside := orderly.contains_eq_false_of_sibling contains
  apply Node.childAt?_of_punctuation_contains unnamed contains
  · intro node member named
    refine ⟨?_, endsAt_eq_false_iff.mpr (apart node member named)⟩
    rcases List.mem_append.mp member with earlier | later
    · exact outside node (List.mem_append_left _ earlier)
    · rcases List.mem_cons.mp later with rfl | later
      · rw [unnamed] at named
        cases named
      · exact outside node (List.mem_append_right _ later)
  · intro node member
    exact outside node (List.mem_append_left _ member)

/-- The child that ends at the point is entered, unless a child contains the point. -/
theorem childAt?_of_outside (orderly : Orderly nodes) (isChild : nodes[index]? = some child)
    (ends : child.span.stop.point = point)
    (outside : ∀ node ∈ nodes, node.span.contains point = false) :
    childAt? nodes point = some (child, index) := by
  cases named : child.isNamed with
  | true =>
      exact orderly.childAt?_of_endsAt isChild named ends fun node member _ => outside node member
  | false =>
      obtain ⟨before, after, rfl, rfl⟩ := exists_split_of_getElem? isChild
      exact Node.childAt?_of_punctuation_endsAt named (endsAt_iff.mpr ends) outside
        (orderly.endsAt_eq_false_of_sibling ends)

end Orderly

/-! ## The whole search -/

/-- The search goes on in the child that is entered. -/
theorem locate_of_childAt?_eq_some {node child : Node} {point : Point} {index : Nat}
    (entered : childAt? node.children point = some (child, index)) :
    node.locate point = index :: child.locate point := by
  cases node with
  | leaf kind token => cases (childAt?_eq_some entered).1
  | branch kind span children =>
      rw [locate]
      split
      · rename_i missed
        cases missed.symm.trans entered
      · rename_i other place found
        obtain ⟨rfl, rfl⟩ := Prod.mk.inj (Option.some.inj (found.symm.trans entered))
        rfl

/-- The search ends where no child is entered. -/
theorem locate_of_childAt?_eq_none {node : Node} {point : Point}
    (missed : childAt? node.children point = none) : node.locate point = [] := by
  cases node with
  | leaf kind token => rw [locate]
  | branch kind span children =>
      rw [locate]
      split
      · rfl
      · rename_i other place found
        cases found.symm.trans missed

@[simp]
theorem childAt?_nil (point : Point) : childAt? [] point = none :=
  rfl

/-- The search does not go on from a node without children. -/
theorem locate_of_childless {node : Node} (childless : node.children = []) (point : Point) :
    node.locate point = [] :=
  locate_of_childAt?_eq_none (by rw [childless, childAt?_nil])

/-- The search leads to a node. -/
theorem exists_follow?_locate (node : Node) (point : Point) :
    ∃ found, node.follow? (node.locate point) = some found := by
  induction node using Node.induction with
  | leaf kind token => exact ⟨.leaf kind token, by rw [locate_of_childless rfl, follow?_nil]⟩
  | branch kind span children ih =>
      cases entered : childAt? (branch kind span children).children point with
      | none =>
          rw [locate_of_childAt?_eq_none entered]
          exact ⟨_, follow?_nil _⟩
      | some entry =>
          rcases entry with ⟨child, index⟩
          obtain ⟨isChild, -⟩ := childAt?_eq_some entered
          obtain ⟨inner, follows⟩ := ih child (List.mem_of_getElem? isChild)
          rw [locate_of_childAt?_eq_some entered, follow?_cons]
          exact ⟨inner, Option.bind_eq_some_iff.mpr ⟨child, isChild, follows⟩⟩

/-- A branch is named. -/
theorem isNamed_of_children_ne_nil {node : Node} (orderly : Orderly [node])
    (inner : node.children ≠ []) : node.isNamed = true := by
  cases node with
  | leaf kind token => exact absurd rfl inner
  | branch kind span children =>
      exact (orderly.formed _ (mem_traverse_of_mem (List.mem_singleton_self _))).exists_enclose.1

/-- A tree that holds a named node is named. -/
theorem isNamed_of_follow? {node inner : Node} {path : Path} (orderly : Orderly [node])
    (follows : node.follow? path = some inner) (named : inner.isNamed = true) :
    node.isNamed = true := by
  cases path with
  | nil =>
      obtain rfl : node = inner := Option.some.inj follows
      exact named
  | cons index path =>
      obtain ⟨child, isChild, -⟩ := Option.bind_eq_some_iff.mp follows
      exact isNamed_of_children_ne_nil orderly (List.ne_nil_of_mem (List.mem_of_getElem? isChild))

section Search

variable {node inner : Node} {path : Path} {point : Point}

/-- A named node that contains the point is passed on the way. -/
theorem locate_of_contains (orderly : Orderly node.children)
    (follows : node.follow? path = some inner) (named : inner.isNamed = true)
    (contains : inner.span.contains point = true) :
    node.locate point = path ++ inner.locate point := by
  induction path generalizing node with
  | nil =>
      obtain rfl : node = inner := Option.some.inj follows
      rfl
  | cons index path ih =>
      obtain ⟨child, isChild, rest⟩ := Option.bind_eq_some_iff.mp follows
      have orderlyChild := orderly.single (List.mem_of_getElem? isChild)
      obtain ⟨startCovered, stopCovered⟩ := orderlyChild.span_le (mem_traverse_of_follow? rest)
      obtain ⟨started, notEnded⟩ := contains_iff.mp contains
      have childContains : child.span.contains point = true :=
        contains_iff.mpr ⟨le_trans startCovered.2 started, lt_of_lt_of_le notEnded stopCovered.2⟩
      have childNamed := isNamed_of_follow? orderlyChild rest named
      rw [locate_of_childAt?_eq_some
          (orderly.childAt?_of_contains isChild childNamed childContains),
        ih orderlyChild.children rest, List.cons_append]

/-- A tree that contains the point while none of its leaves does is named. -/
theorem isNamed_of_outside (orderly : Orderly [node]) (contains : node.span.contains point = true)
    (outside : ∀ token ∈ node.leaves, token.span.contains point = false) :
    node.isNamed = true := by
  cases node with
  | leaf kind token =>
      have missed := outside token (by rw [leaves_leaf]; exact List.mem_singleton_self token)
      cases missed.symm.trans contains
  | branch kind span children =>
      have formed := orderly.formed _ (mem_traverse_of_mem (List.mem_singleton_self _))
      exact isNamed_of_children_ne_nil orderly formed.children_ne_nil

/-- Where a node ends, a sibling contains the point only with its first leaf. -/
theorem Orderly.contains_eq_false_of_outside {nodes : List Node} (orderly : Orderly nodes)
    {child sibling : Node} {index : Nat} (isChild : nodes[index]? = some child)
    (ends : child.span.stop.point = point) (member : sibling ∈ nodes)
    (outside : ∀ token ∈ sibling.leaves, token.span.contains point = false) :
    sibling.span.contains point = false := by
  rw [← Bool.not_eq_true]
  intro contains
  obtain ⟨first, held, start⟩ := (orderly.single member).exists_start_eq
  have proper := orderly.ordered.start_lt_stop first (List.mem_flatMap.mpr ⟨sibling, member, held⟩)
  have starts : first.span.start.point = point := by
    rw [← start]
    obtain ⟨before, after, whole, -⟩ := exists_split_of_getElem? isChild
    rw [whole] at orderly member
    exact orderly.start_eq_of_contains ends member contains
  have missed := outside first held
  rw [contains_eq_false_iff, starts] at missed
  exact absurd (missed (le_refl point)) (starts ▸ proper.2).not_ge

/-- A leaf that ends at the point is found, unless a leaf contains the point. -/
theorem locate_of_endsAt (orderly : Orderly node.children)
    (follows : node.follow? path = some inner) (childless : inner.children = [])
    (ends : inner.span.stop.point = point)
    (outside : ∀ token ∈ node.leaves, token.span.contains point = false) :
    node.locate point = path := by
  induction path generalizing node with
  | nil =>
      obtain rfl : node = inner := Option.some.inj follows
      exact locate_of_childless childless point
  | cons index path ih =>
      obtain ⟨child, isChild, rest⟩ := Option.bind_eq_some_iff.mp follows
      have childMember := List.mem_of_getElem? isChild
      have orderlyChild := orderly.single childMember
      have allOutside : ∀ sibling ∈ node.children, ∀ token ∈ sibling.leaves,
          token.span.contains point = false :=
        fun sibling member token held => outside token (leaves_subset_of_mem_children member held)
      have goesOn := ih orderlyChild.children rest (allOutside child childMember)
      cases contains : child.span.contains point with
      | true =>
          have childNamed := isNamed_of_outside orderlyChild contains (allOutside child childMember)
          rw [locate_of_childAt?_eq_some (orderly.childAt?_of_contains isChild childNamed contains),
            goesOn]
      | false =>
          have inside := mem_traverse_of_follow? rest
          obtain ⟨startCovered, stopCovered⟩ := orderlyChild.span_le inside
          have started : child.span.start.point ≤ point := by
            rw [← ends]
            exact le_trans startCovered.2 (le_of_lt (orderlyChild.below inside).start_lt_stop.2)
          have childEnds : child.span.stop.point = point :=
            le_antisymm (contains_eq_false_iff.mp contains started) (ends ▸ stopCovered.2)
          rw [locate_of_childAt?_eq_some (orderly.childAt?_of_outside isChild childEnds
            fun sibling member => orderly.contains_eq_false_of_outside isChild childEnds member
              (allOutside sibling member)), goesOn]

/-- Where no leaf ends at the point, the search stays where it starts or ends at a node that
contains the point. -/
theorem locate_eq_nil_or_contains (orderly : Orderly node.children)
    (apart : ∀ token ∈ node.leaves, token.span.stop.point ≠ point)
    (found : node.follow? (node.locate point) = some inner) :
    node.locate point = [] ∨ inner.span.contains point = true := by
  induction node using Node.induction with
  | leaf kind token => exact Or.inl (locate_of_childless rfl point)
  | branch kind span children ih =>
      cases entered : childAt? (branch kind span children).children point with
      | none => exact Or.inl (locate_of_childAt?_eq_none entered)
      | some entry =>
          rcases entry with ⟨child, index⟩
          obtain ⟨isChild, qualified⟩ := childAt?_eq_some entered
          have childMember := List.mem_of_getElem? isChild
          have orderlyChild := orderly.single childMember
          have childApart : ∀ token ∈ child.leaves, token.span.stop.point ≠ point :=
            fun token held => apart token (leaves_subset_of_mem_children childMember held)
          have contains : child.span.contains point = true := by
            refine qualified.resolve_right fun ends => ?_
            obtain ⟨last, lastMember, stop⟩ := orderlyChild.exists_stop_eq
            exact childApart last lastMember (stop ▸ endsAt_iff.mp ends)
          rw [locate_of_childAt?_eq_some entered, follow?_cons] at found
          obtain ⟨other, isOther, rest⟩ := Option.bind_eq_some_iff.mp found
          obtain rfl : child = other := Option.some.inj (isChild.symm.trans isOther)
          right
          rcases ih child childMember orderlyChild.children childApart rest with here | deeper
          · rw [here, follow?_nil, Option.some.injEq] at rest
            rw [← rest]
            exact contains
          · exact deeper

end Search

/-! ## Points that belong to a token -/

/-- A point belongs to a token when the token contains it, or when the token ends there
and no other token starts there. -/
def BelongsTo (point : Point) (token : Token) (tokens : List Token) : Prop :=
  token.span.start.point ≤ point ∧
    (point < token.span.stop.point ∨
      point = token.span.stop.point ∧ ∀ other ∈ tokens, other.span.start.point ≠ point)

/-- Where a token ends and none starts, no token contains the point. -/
theorem contains_eq_false_of_stop {tokens : List Token} (ordered : Token.Ordered tokens)
    {token : Token} (member : token ∈ tokens) {point : Point}
    (ends : token.span.stop.point = point)
    (noStart : ∀ other ∈ tokens, other.span.start.point ≠ point) :
    ∀ other ∈ tokens, other.span.contains point = false := by
  obtain ⟨before, after, rfl⟩ := List.append_of_mem member
  intro other otherMember
  rw [contains_eq_false_iff]
  intro started
  obtain ⟨-, later, earlier⟩ := List.pairwise_append.mp ordered.pairwise
  have proper := (ordered.start_lt_stop token member).2
  rcases List.mem_append.mp otherMember with isBefore | isAfter
  · have ended := (earlier other isBefore token List.mem_cons_self).2
    exact le_of_lt (lt_of_le_of_lt ended (ends ▸ proper))
  · rcases List.mem_cons.mp isAfter with rfl | isAfter
    · exact le_of_eq ends
    · have behind := ((List.pairwise_cons.mp later).1 other isAfter).2
      exact absurd (le_antisymm started (ends ▸ behind)) (noStart other otherMember)

/-- A point that belongs to the token of a named leaf leads to that leaf. -/
theorem locate_of_belongsTo {kind : Kind} {token : Token} {point : Point} {path : Path}
    (named : kind.isNamed = true) {node : Node} (orderly : Orderly node.children)
    (ordered : Token.Ordered node.leaves) (follows : node.follow? path = some (leaf kind token))
    (belongs : BelongsTo point token node.leaves) : node.locate point = path := by
  obtain ⟨started, inside | ⟨atEnd, noStart⟩⟩ := belongs
  · have passed := locate_of_contains orderly follows named (contains_iff.mpr ⟨started, inside⟩)
    rw [passed, locate_of_childless rfl, List.append_nil]
  · have held : token ∈ node.leaves := by
      simpa using mem_leaves_of_mem_traverse (mem_traverse_of_follow? follows)
    exact locate_of_endsAt orderly follows rfl atEnd.symm
      (contains_eq_false_of_stop ordered held atEnd.symm noStart)

end SetScript.Node

namespace SetScript.SyntaxTree

open Text

/-- The node at a point is at the end of the path to the point. -/
theorem follow?_pathAt (tree : SyntaxTree) (point : Point) :
    tree.root.follow? (tree.pathAt point) = some (tree.nodeAt point) := by
  obtain ⟨found, follows⟩ := tree.root.exists_follow?_locate point
  rw [nodeAt, pathAt, follows]
  rfl

/-- The node at a point is the root or a node below it. -/
theorem nodeAt_eq_or_mem (tree : SyntaxTree) (point : Point) :
    tree.nodeAt point = tree.root ∨ tree.nodeAt point ∈ tree.root.descendants := by
  have met := Node.mem_traverse_of_follow? (tree.follow?_pathAt point)
  rw [Node.traverse_cons, Node.traverse_nil, List.append_nil] at met
  exact List.mem_cons.mp met

/-- The literal at a point is a string token of the document. -/
theorem nodeAt_of_kind_eq_string {source : String} {point : Point}
    (string : ((parse source).nodeAt point).kind = .string) :
    ∃ token ∈ Token.scan source.toList, token.kind = .string ∧
      (parse source).nodeAt point = .leaf .string token := by
  rcases nodeAt_eq_or_mem (parse source) point with root | below
  · rw [root] at string
    cases string
  · exact exists_token_of_kind_eq_string below string

/-- The node at a point that belongs to a string literal is that literal. -/
theorem nodeAt_of_belongsTo {source : String} {token : Token} {point : Point}
    (member : .leaf .string token ∈ (parse source).root.descendants)
    (belongs : Node.BelongsTo point token (Token.scan source.toList)) :
    (parse source).nodeAt point = .leaf .string token := by
  obtain ⟨path, -, follows⟩ := Node.exists_follow?_of_mem_descendants member
  rw [← leaves_root_parse] at belongs
  have ordered : Token.Ordered (parse source).root.leaves := by
    rw [leaves_root_parse]
    exact Token.ordered_scan source.toList
  have found := Node.locate_of_belongsTo rfl (orderly_parse source) ordered follows belongs
  have leads := (parse source).follow?_pathAt point
  rw [pathAt, found, follows, Option.some.injEq] at leads
  exact leads.symm

end SetScript.SyntaxTree
