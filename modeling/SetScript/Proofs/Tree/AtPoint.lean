import SetScript.Proofs.Tree.Locate
import SetScript.Proofs.Tree.WellFormed

/-!
# The node at a point

The search for a point decides level by level, but what it finds can be said about the
leaves of the whole tree.  A named leaf that contains the point comes first.  Where
punctuation contains it, a named sibling that ends right there takes it over, and the last
leaf of that sibling is found.  Else a leaf that ends at the point is found, and else the
deepest node around the point.  These rules leave no choice, and the search keeps to them.
-/

namespace SetScript

open Text

namespace Node

/-- Punctuation is what is not named. -/
theorem isNamed_eq_false_iff {node : Node} : node.isNamed = false ↔ node.kind = .punctuation := by
  rw [isNamed]
  cases node.kind <;> simp [Kind.isNamed]

/-- The path from a node to its last leaf, by way of the last children. -/
def rightmost : Node → Path
  | leaf _ _ => []
  | branch _ _ children =>
      match final : children.getLast? with
      | none => []
      | some last =>
          have : sizeOf last < sizeOf children :=
            List.sizeOf_lt_of_mem (List.mem_of_getLast? final)
          (children.length - 1) :: rightmost last
termination_by node => sizeOf node

theorem rightmost_branch {kind : Kind} {span : Span} {children : List Node} {last : Node}
    (final : children.getLast? = some last) :
    (branch kind span children).rightmost = (children.length - 1) :: last.rightmost := by
  rw [rightmost]
  split
  · rename_i missing
    cases missing.symm.trans final
  · rename_i other found
    obtain rfl : other = last := Option.some.inj (found.symm.trans final)
    rfl

/-- The last leaf of a tree ends where the tree ends. -/
theorem exists_follow?_rightmost {node : Node} (orderly : Orderly [node]) :
    ∃ inner, node.follow? node.rightmost = some inner ∧ inner.children = [] ∧
      inner.span.stop = node.span.stop := by
  induction node using Node.induction with
  | leaf kind token => exact ⟨.leaf kind token, by rw [rightmost, follow?_nil], rfl, rfl⟩
  | branch kind span children ih =>
      have formed := orderly.formed _ (mem_traverse_of_mem (List.mem_singleton_self _))
      have final := List.getLast?_eq_some_getLast formed.children_ne_nil
      have member := List.mem_of_getLast? final
      obtain ⟨inner, follows, childless, stop⟩ := ih _ member (orderly.children.single member)
      refine ⟨inner, ?_, childless, ?_⟩
      · have isLast := List.getLast?_eq_getElem?.symm.trans final
        rw [rightmost_branch final, follow?_cons]
        exact Option.bind_eq_some_iff.mpr ⟨_, isLast, follows⟩
      · rw [stop]
        exact ((SyntaxTree.tight_of_formed formed).2 _ final).symm

/-- The search for the end of a tree leads to its last leaf. -/
theorem locate_of_stop {node : Node} (orderly : Orderly [node]) {path : Path} {inner : Node}
    (follows : node.follow? path = some inner) (childless : inner.children = [])
    (ends : inner.span.stop.point = node.span.stop.point) :
    node.locate node.span.stop.point = path := by
  apply locate_of_endsAt orderly.children follows childless ends
  intro token member
  rw [contains_eq_false_iff]
  intro _
  exact (orderly.covers member).2.2

end Node

namespace Cursor

/-- The cursor stands on a node without children that is not the root. -/
structure IsLeaf (tree : SyntaxTree) (cursor : Cursor) : Prop where
  standsIn : cursor.StandsIn tree
  notRoot : cursor ≠ root tree
  childless : cursor.node.children = []

/-- A cursor stands on the sibling right before another one. -/
def Precedes (tree : SyntaxTree) (sibling cursor : Cursor) : Prop :=
  ∃ (parent : Cursor) (index : Nat), parent.StandsIn tree ∧
    parent.child? index = some sibling ∧ parent.child? (index + 1) = some cursor

/-- What a cursor has to meet to be the one at a point. -/
structure Meets (tree : SyntaxTree) (point : Point) (found : Cursor) : Prop where
  /-- It stands on the named leaf that contains the point. -/
  inNamed : ∀ leaf : Cursor, leaf.IsLeaf tree → leaf.node.isNamed = true →
    leaf.node.span.contains point = true → found = leaf
  /-- If punctuation contains the point, it stands on the last leaf of the sibling before, if
  that is named and ends at the point, and else on the punctuation. -/
  inPunctuation : ∀ leaf : Cursor, leaf.IsLeaf tree → leaf.node.kind = .punctuation →
    leaf.node.span.contains point = true →
      (∀ sibling : Cursor, sibling.Precedes tree leaf → sibling.node.isNamed = true →
        sibling.node.span.stop.point = point →
          at? tree (sibling.path ++ sibling.node.rightmost) = some found) ∧
      ((∀ sibling : Cursor, sibling.Precedes tree leaf → sibling.node.isNamed = true →
        sibling.node.span.stop.point ≠ point) → found = leaf)
  /-- If no leaf contains the point, it stands on the leaf that ends there. -/
  atEnd : (∀ leaf : Cursor, leaf.IsLeaf tree → leaf.node.span.contains point = false) →
    ∀ leaf : Cursor, leaf.IsLeaf tree → leaf.node.span.stop.point = point → found = leaf
  /-- If no leaf contains the point or ends there, it stands on the root or on a node that
  contains the point, and below every other node that does. -/
  between : (∀ leaf : Cursor, leaf.IsLeaf tree →
      leaf.node.span.contains point = false ∧ leaf.node.span.stop.point ≠ point) →
    found.StandsIn tree ∧ (found = root tree ∨ found.node.span.contains point = true) ∧
      ∀ other : Cursor, other.StandsIn tree → other ≠ root tree →
        other.node.span.contains point = true → other.path <+: found.path

/-! ## Leaves and tokens -/

section Document

variable {source : String} {cursor : Cursor} {point : Point}

/-- A leaf of a document holds one of its tokens. -/
theorem IsLeaf.exists_token (isLeaf : cursor.IsLeaf (.parse source)) :
    ∃ kind token, cursor.node = .leaf kind token ∧ kind.fits token.kind = true ∧
      token ∈ Token.scan source.toList := by
  have member := isLeaf.standsIn.mem_descendants isLeaf.notRoot
  have childless := isLeaf.childless
  generalize cursor.node = node at member childless
  cases SyntaxTree.formed_of_mem_descendants member with
  | leaf fits => exact ⟨_, _, rfl, fits, SyntaxTree.mem_scan_of_leaf_mem member⟩
  | parenthesized | arguments | call => cases childless

/-- A token of a document is held by one of its leaves. -/
theorem exists_isLeaf {token : Token} (member : token ∈ Token.scan source.toList) :
    ∃ (cursor : Cursor) (kind : Kind), cursor.IsLeaf (.parse source) ∧
      cursor.node = .leaf kind token ∧ kind.fits token.kind = true := by
  rw [← Forest.flatMap_leaves_ofTokens (Token.scan source.toList),
    ← Node.filterMap_token?_traverse] at member
  obtain ⟨node, met, holds⟩ := List.mem_filterMap.mp member
  have below : node ∈ (SyntaxTree.parse source).root.descendants := met
  obtain ⟨path, notEmpty, follows⟩ := Node.exists_follow?_of_mem_descendants below
  have notRoot : (⟨path, node⟩ : Cursor) ≠ root (.parse source) :=
    fun isRoot => notEmpty (congrArg Cursor.path isRoot)
  cases SyntaxTree.formed_of_mem_descendants below with
  | @leaf kind other fits =>
      cases holds
      exact ⟨⟨path, .leaf kind token⟩, kind, ⟨follows, notRoot, rfl⟩, rfl, fits⟩
  | parenthesized | arguments | call => cases holds

/-- What holds of the extents of all leaves holds of those of all tokens. -/
theorem forall_token_of_forall_leaf (holds : Span → Prop)
    (leaves : ∀ leaf : Cursor, leaf.IsLeaf (.parse source) → holds leaf.node.span) :
    ∀ token ∈ (SyntaxTree.parse source).root.leaves, holds token.span := by
  intro token member
  rw [SyntaxTree.leaves_root_parse] at member
  obtain ⟨leaf, kind, isLeaf, node, -⟩ := exists_isLeaf member
  have extent := leaves leaf isLeaf
  rw [node] at extent
  exact extent

/-! ## The rules one by one -/

theorem standsIn_atPoint (tree : SyntaxTree) (point : Point) :
    (atPoint tree point).StandsIn tree :=
  tree.follow?_pathAt point

theorem atPoint_eq_of_locate {tree : SyntaxTree} (standsIn : cursor.StandsIn tree)
    (found : tree.root.locate point = cursor.path) : atPoint tree point = cursor :=
  (standsIn_atPoint tree point).eq_of_path_eq standsIn found

/-- A named leaf that contains the point is found. -/
theorem atPoint_of_contains (isLeaf : cursor.IsLeaf (.parse source))
    (named : cursor.node.isNamed = true) (contains : cursor.node.span.contains point = true) :
    atPoint (.parse source) point = cursor := by
  apply atPoint_eq_of_locate isLeaf.standsIn
  rw [Node.locate_of_contains (SyntaxTree.orderly_parse source) isLeaf.standsIn named contains,
    Node.locate_of_childless isLeaf.childless, List.append_nil]

/-- The search passes every node with a child that contains the point. -/
theorem locate_of_child_contains {parent : Cursor} {index : Nat}
    (standsIn : parent.StandsIn (.parse source)) (isChild : parent.child? index = some cursor)
    (contains : cursor.node.span.contains point = true) :
    (SyntaxTree.parse source).root.locate point = parent.path ++ parent.node.locate point := by
  by_cases isRoot : parent = root (.parse source)
  · rw [isRoot]
    rfl
  · have orderly := (SyntaxTree.orderly_parse source).below (standsIn.mem_descendants isRoot)
    have childMember := List.mem_of_getElem? (child?_eq_some_iff.mp isChild).2
    have below := Node.mem_traverse_iff.mpr
      ⟨parent.node, List.mem_singleton_self _, Or.inr (Node.mem_traverse_of_mem childMember)⟩
    obtain ⟨startCovered, stopCovered⟩ := orderly.span_le below
    obtain ⟨started, notEnded⟩ := Node.contains_iff.mp contains
    have parentContains : parent.node.span.contains point = true :=
      Node.contains_iff.mpr ⟨le_trans startCovered.2 started, lt_of_lt_of_le notEnded stopCovered.2⟩
    have named := Node.isNamed_of_children_ne_nil orderly (List.ne_nil_of_mem childMember)
    exact Node.locate_of_contains (SyntaxTree.orderly_parse source) standsIn named parentContains

/-- A named sibling that ends where punctuation starts is entered instead of it. -/
theorem locate_of_precedes {sibling : Cursor} (precedes : sibling.Precedes (.parse source) cursor)
    (unnamed : cursor.node.isNamed = false) (contains : cursor.node.span.contains point = true)
    (named : sibling.node.isNamed = true) (ends : sibling.node.span.stop.point = point) :
    (SyntaxTree.parse source).root.locate point = sibling.path ++ sibling.node.locate point := by
  obtain ⟨parent, index, standsIn, isSibling, isCursor⟩ := precedes
  obtain ⟨path, siblingNode⟩ := child?_eq_some_iff.mp isSibling
  obtain ⟨-, cursorNode⟩ := child?_eq_some_iff.mp isCursor
  have orderly := standsIn.orderly_children
  have outside : ∀ node ∈ parent.node.children, node.isNamed = true →
      node.span.contains point = false := by
    intro node member nodeNamed
    obtain ⟨before, after, whole, -⟩ := Node.exists_split_of_getElem? cursorNode
    rw [whole] at orderly member
    rcases List.mem_append.mp member with earlier | later
    · exact orderly.contains_eq_false_of_sibling contains node (List.mem_append_left _ earlier)
    · rcases List.mem_cons.mp later with rfl | later
      · cases nodeNamed.symm.trans unnamed
      · exact orderly.contains_eq_false_of_sibling contains node (List.mem_append_right _ later)
  rw [locate_of_child_contains standsIn isCursor contains,
    Node.locate_of_childAt?_eq_some (orderly.childAt?_of_endsAt siblingNode named ends outside),
    path, List.append_assoc, List.singleton_append]

/-- Punctuation that contains the point is found where no named sibling ends right there. -/
theorem atPoint_of_punctuation (isLeaf : cursor.IsLeaf (.parse source))
    (unnamed : cursor.node.isNamed = false) (contains : cursor.node.span.contains point = true)
    (apart : ∀ sibling : Cursor, sibling.Precedes (.parse source) cursor →
      sibling.node.isNamed = true → sibling.node.span.stop.point ≠ point) :
    atPoint (.parse source) point = cursor := by
  obtain ⟨parent, index, standsIn, isChild⟩ := isLeaf.standsIn.exists_parent isLeaf.notRoot
  obtain ⟨path, isNode⟩ := child?_eq_some_iff.mp isChild
  have orderly := standsIn.orderly_children
  obtain ⟨started, notEnded⟩ := Node.contains_iff.mp contains
  have noneEnds : ∀ node ∈ parent.node.children, node.isNamed = true →
      node.span.stop.point ≠ point := by
    intro node member named ends
    obtain ⟨place, atPlace⟩ := List.mem_iff_getElem?.mp member
    have proper := (orderly.single member).start_lt_stop.2
    rcases Nat.lt_trichotomy place index with before | rfl | behind
    · have next := orderly.eq_succ_of_touching atPlace isNode before (ends ▸ started)
      have isSibling : parent.child? place = some ⟨parent.path ++ [place], node⟩ :=
        child?_eq_some_iff.mpr ⟨rfl, atPlace⟩
      rw [next] at isChild
      exact apart _ ⟨parent, place, standsIn, isSibling, isChild⟩ named ends
    · rw [Option.some.inj (atPlace.symm.trans isNode), unnamed] at named
      cases named
    · have after := (orderly.stop_le_start isNode atPlace behind).2
      exact absurd (lt_trans (lt_of_lt_of_le notEnded after) proper) (ends ▸ lt_irrefl point)
  apply atPoint_eq_of_locate isLeaf.standsIn
  rw [locate_of_child_contains standsIn isChild contains, Node.locate_of_childAt?_eq_some
      (orderly.childAt?_of_punctuation_contains isNode unnamed contains noneEnds),
    Node.locate_of_childless isLeaf.childless, path]

/-- Where no leaf contains the point, the leaf that ends there is found. -/
theorem atPoint_of_stop
    (outside : ∀ leaf : Cursor, leaf.IsLeaf (.parse source) →
      leaf.node.span.contains point = false)
    (isLeaf : cursor.IsLeaf (.parse source)) (ends : cursor.node.span.stop.point = point) :
    atPoint (.parse source) point = cursor :=
  atPoint_eq_of_locate isLeaf.standsIn
    (Node.locate_of_endsAt (SyntaxTree.orderly_parse source) isLeaf.standsIn isLeaf.childless ends
      (forall_token_of_forall_leaf (·.contains point = false) outside))

/-- Away from all leaves, the root or a node that contains the point is found, below every
other such node. -/
theorem atPoint_of_outside
    (outside : ∀ leaf : Cursor, leaf.IsLeaf (.parse source) →
      leaf.node.span.contains point = false ∧ leaf.node.span.stop.point ≠ point) :
    let found := atPoint (.parse source) point
    (found = root (.parse source) ∨ found.node.span.contains point = true) ∧
      ∀ other : Cursor, other.StandsIn (.parse source) → other ≠ root (.parse source) →
        other.node.span.contains point = true → other.path <+: found.path := by
  intro found
  have standsIn : found.StandsIn (.parse source) := standsIn_atPoint _ point
  constructor
  · have apart := forall_token_of_forall_leaf (·.stop.point ≠ point) fun leaf isLeaf =>
      (outside leaf isLeaf).2
    apply Or.imp_left standsIn.path_eq_nil_iff.mp
    exact Node.locate_eq_nil_or_contains (SyntaxTree.orderly_parse source) apart standsIn
  · intro other otherStandsIn notRoot contains
    have orderly := (SyntaxTree.orderly_parse source).below (otherStandsIn.mem_descendants notRoot)
    have named : other.node.isNamed = true := by
      apply Node.isNamed_of_children_ne_nil orderly
      intro childless
      cases contains.symm.trans (outside other ⟨otherStandsIn, notRoot, childless⟩).1
    have passed := Node.locate_of_contains (SyntaxTree.orderly_parse source) otherStandsIn named
      contains
    exact ⟨other.node.locate point, passed.symm⟩

/-! ## All rules together -/

/-- The cursor at a point meets the rules. -/
theorem meets_atPoint (source : String) (point : Point) :
    (atPoint (.parse source) point).Meets (.parse source) point where
  inNamed leaf isLeaf named contains := atPoint_of_contains isLeaf named contains
  inPunctuation leaf isLeaf punctuation contains := by
    have unnamed := Node.isNamed_eq_false_iff.mpr punctuation
    refine ⟨?_, atPoint_of_punctuation isLeaf unnamed contains⟩
    intro sibling precedes named ends
    have entered := locate_of_precedes precedes unnamed contains named ends
    obtain ⟨parent, index, standsIn, isSibling, -⟩ := precedes
    have childMember := List.mem_of_getElem? (child?_eq_some_iff.mp isSibling).2
    have orderly := standsIn.orderly_children.single childMember
    obtain ⟨inner, follows, childless, stop⟩ := Node.exists_follow?_rightmost orderly
    have last := Node.locate_of_stop orderly follows childless (congrArg Mark.point stop)
    rw [ends] at last
    rw [at?_eq_some_iff]
    exact ⟨entered.trans (congrArg _ last), standsIn_atPoint _ point⟩
  atEnd outside leaf isLeaf ends := atPoint_of_stop outside isLeaf ends
  between outside := ⟨standsIn_atPoint _ point, atPoint_of_outside outside⟩

/-- Away from all leaves, a cursor that meets the rules stands below every other one. -/
theorem Meets.path_prefix {tree : SyntaxTree} {first second : Cursor}
    (meets : first.Meets tree point) (alsoMeets : second.Meets tree point)
    (away : ∀ leaf : Cursor, leaf.IsLeaf tree →
      leaf.node.span.contains point = false ∧ leaf.node.span.stop.point ≠ point) :
    first.path <+: second.path := by
  obtain ⟨standsIn, around, -⟩ := meets.between away
  obtain ⟨-, -, above⟩ := alsoMeets.between away
  by_cases isRoot : first = root tree
  · rw [isRoot]
    exact List.nil_prefix
  · exact above first standsIn isRoot (around.resolve_left isRoot)

/-- The rules leave no choice. -/
theorem Meets.unique {tree : SyntaxTree} {first second : Cursor}
    (meets : first.Meets tree point) (alsoMeets : second.Meets tree point) : first = second := by
  by_cases outside : ∀ leaf : Cursor, leaf.IsLeaf tree → leaf.node.span.contains point = false
  · by_cases touched : ∃ leaf : Cursor, leaf.IsLeaf tree ∧ leaf.node.span.stop.point = point
    · obtain ⟨leaf, isLeaf, ends⟩ := touched
      rw [meets.atEnd outside leaf isLeaf ends, alsoMeets.atEnd outside leaf isLeaf ends]
    · have away : ∀ leaf : Cursor, leaf.IsLeaf tree →
          leaf.node.span.contains point = false ∧ leaf.node.span.stop.point ≠ point :=
        fun leaf isLeaf => ⟨outside leaf isLeaf, fun ends => touched ⟨leaf, isLeaf, ends⟩⟩
      have forth := meets.path_prefix alsoMeets away
      have back := alsoMeets.path_prefix meets away
      exact (meets.between away).1.eq_of_path_eq (alsoMeets.between away).1
        (forth.eq_of_length_le back.length_le)
  · push Not at outside
    obtain ⟨leaf, isLeaf, contains⟩ := outside
    rw [ne_eq, Bool.not_eq_false] at contains
    cases named : leaf.node.isNamed with
    | true =>
        rw [meets.inNamed leaf isLeaf named contains, alsoMeets.inNamed leaf isLeaf named contains]
    | false =>
        have punctuation := Node.isNamed_eq_false_iff.mp named
        have rule := meets.inPunctuation leaf isLeaf punctuation contains
        have alsoRule := alsoMeets.inPunctuation leaf isLeaf punctuation contains
        by_cases taken : ∃ sibling : Cursor, sibling.Precedes tree leaf ∧
            sibling.node.isNamed = true ∧ sibling.node.span.stop.point = point
        · obtain ⟨sibling, precedes, siblingNamed, ends⟩ := taken
          have found := rule.1 sibling precedes siblingNamed ends
          exact Option.some.inj (found.symm.trans (alsoRule.1 sibling precedes siblingNamed ends))
        · have apart : ∀ sibling : Cursor, sibling.Precedes tree leaf →
              sibling.node.isNamed = true → sibling.node.span.stop.point ≠ point :=
            fun sibling precedes siblingNamed ends => taken ⟨sibling, precedes, siblingNamed, ends⟩
          rw [rule.2 apart, alsoRule.2 apart]

/-- The cursor at a point is the one that meets the rules. -/
theorem atPoint_eq_iff_meets (source : String) (point : Point) (cursor : Cursor) :
    atPoint (.parse source) point = cursor ↔ cursor.Meets (.parse source) point := by
  constructor
  · rintro rfl
    exact meets_atPoint source point
  · exact (meets_atPoint source point).unique

end Document

end Cursor

end SetScript
