import SetScript.Cursor
import SetScript.Proofs.Tree.Extent
import SetScript.Proofs.Tree.Path
import Mathlib.Logic.Relation

/-!
# Well-formed trees

The nodes of a document form a tree in which every node but the root has one parent and
stands once among its children, and nowhere else.  Extents agree with this shape: the root
covers the document, other nodes cover some text of it, branches reach from their first to
their last child, and siblings come one after another.

Everything that is looked up in a tree rests on this, and every document has such a tree,
however many mistakes it contains.
-/

namespace SetScript

open Text

/-! ## Cursors on a tree -/

namespace Cursor

/-- The cursor stands on a node of a tree. -/
def StandsIn (tree : SyntaxTree) (cursor : Cursor) : Prop :=
  tree.root.follow? cursor.path = some cursor.node

variable {tree : SyntaxTree} {cursor child : Cursor} {index : Nat}

theorem at?_eq_some_iff {path : Path} :
    at? tree path = some cursor ↔ cursor.path = path ∧ cursor.StandsIn tree := by
  rw [at?, Option.map_eq_some_iff]
  constructor
  · rintro ⟨node, follows, rfl⟩
    exact ⟨rfl, follows⟩
  · rintro ⟨rfl, standsIn⟩
    exact ⟨cursor.node, standsIn, rfl⟩

theorem child?_eq_some_iff :
    cursor.child? index = some child ↔
      child.path = cursor.path ++ [index] ∧ cursor.node.child? index = some child.node := by
  rw [child?, Option.map_eq_some_iff]
  constructor
  · rintro ⟨node, isChild, rfl⟩
    exact ⟨rfl, isChild⟩
  · rintro ⟨path, isChild⟩
    refine ⟨child.node, isChild, ?_⟩
    rw [← path]

theorem standsIn_root (tree : SyntaxTree) : (root tree).StandsIn tree :=
  rfl

namespace StandsIn

/-- Two cursors with one path stand on one node. -/
theorem eq_of_path_eq {other : Cursor} (standsIn : cursor.StandsIn tree)
    (otherStandsIn : other.StandsIn tree) (same : cursor.path = other.path) : cursor = other := by
  have nodes : some cursor.node = some other.node := by
    rw [← standsIn, ← otherStandsIn, same]
  cases cursor
  cases other
  rw [mk.injEq]
  exact ⟨same, Option.some.inj nodes⟩

theorem path_eq_nil_iff (standsIn : cursor.StandsIn tree) :
    cursor.path = [] ↔ cursor = root tree := by
  constructor
  · exact standsIn.eq_of_path_eq (standsIn_root tree)
  · rintro rfl
    rfl

/-- The cursor on a child of a node stands in the tree of the node. -/
theorem of_child? (standsIn : cursor.StandsIn tree)
    (isChild : cursor.child? index = some child) : child.StandsIn tree := by
  obtain ⟨path, isNode⟩ := child?_eq_some_iff.mp isChild
  rw [StandsIn, path, Node.follow?_append, standsIn, Option.bind_some, Node.follow?_singleton]
  exact isNode

/-- Going up from a child leads back to the node. -/
theorem parent?_child (standsIn : cursor.StandsIn tree)
    (isChild : cursor.child? index = some child) : child.parent? tree = some cursor := by
  obtain ⟨path, -⟩ := child?_eq_some_iff.mp isChild
  have up : Node.parentPath? child.path = some cursor.path := by
    simp [path, Node.parentPath?]
  rw [parent?, up, Option.bind_some]
  exact at?_eq_some_iff.mpr ⟨rfl, standsIn⟩

/-- Every cursor but that on the root stands on a child of some node. -/
theorem exists_parent (standsIn : cursor.StandsIn tree) (notRoot : cursor ≠ root tree) :
    ∃ (parent : Cursor) (index : Nat),
      parent.StandsIn tree ∧ parent.child? index = some cursor := by
  have below : cursor.path ≠ [] := fun empty => notRoot (standsIn.path_eq_nil_iff.mp empty)
  have whole := List.dropLast_append_getLast below
  have follows := standsIn
  rw [StandsIn, ← whole, Node.follow?_append] at follows
  obtain ⟨node, above, isChild⟩ := Option.bind_eq_some_iff.mp follows
  rw [Node.follow?_singleton] at isChild
  exact ⟨⟨cursor.path.dropLast, node⟩, cursor.path.getLast below, above,
    child?_eq_some_iff.mpr ⟨whole.symm, isChild⟩⟩

/-- Only the root has no parent. -/
theorem parent?_eq_none_iff (standsIn : cursor.StandsIn tree) :
    cursor.parent? tree = none ↔ cursor = root tree := by
  constructor
  · intro noParent
    by_contra notRoot
    obtain ⟨parent, index, parentStandsIn, isChild⟩ := standsIn.exists_parent notRoot
    cases noParent.symm.trans (parentStandsIn.parent?_child isChild)
  · rintro rfl
    rfl

/-- Going up again and again leads to the root. -/
theorem ascends (standsIn : cursor.StandsIn tree) :
    Relation.ReflTransGen (fun lower upper => lower.parent? tree = some upper) cursor
      (root tree) := by
  induction depth : cursor.path.length generalizing cursor with
  | zero =>
      rw [standsIn.path_eq_nil_iff.mp (List.eq_nil_of_length_eq_zero depth)]
  | succ above ih =>
      have notRoot : cursor ≠ root tree := by
        rintro rfl
        cases depth
      obtain ⟨parent, index, parentStandsIn, isChild⟩ := standsIn.exists_parent notRoot
      obtain ⟨path, -⟩ := child?_eq_some_iff.mp isChild
      have parentDepth : parent.path.length = above := by
        rw [path, List.length_append, List.length_singleton] at depth
        exact Nat.succ.inj depth
      exact .head (parentStandsIn.parent?_child isChild) (ih parentStandsIn parentDepth)

/-- A cursor other than that on the root stands on a node below the root. -/
theorem mem_descendants (standsIn : cursor.StandsIn tree) (notRoot : cursor ≠ root tree) :
    cursor.node ∈ tree.root.descendants :=
  Node.mem_descendants_of_follow? standsIn fun empty => notRoot (standsIn.path_eq_nil_iff.mp empty)

/-- The children of a node of a document are orderly. -/
theorem orderly_children {source : String} (standsIn : cursor.StandsIn (.parse source)) :
    Node.Orderly cursor.node.children := by
  have orderly := SyntaxTree.orderly_parse source
  by_cases isRoot : cursor = root (.parse source)
  · rw [isRoot]
    exact orderly
  · exact (orderly.below (standsIn.mem_descendants isRoot)).children

end StandsIn

end Cursor

namespace SyntaxTree

/-- What can be relied on about the nodes of a tree and their extents. -/
structure WellFormed (tree : SyntaxTree) : Prop where
  /-- The root covers the document. -/
  span_root : tree.root.span = ⟨⟨0, ⟨0, 0⟩⟩,
    ⟨utf8Length tree.content,
      ⟨tree.content.count '\n', utf8Length (lastLine tree.content)⟩⟩⟩
  /-- Only the root has no parent. -/
  parent?_eq_none_iff : ∀ cursor : Cursor, cursor.StandsIn tree →
    (cursor.parent? tree = none ↔ cursor = .root tree)
  /-- Every other node stands once among the children of its parent, and among those of
  no other node. -/
  exists_place : ∀ cursor : Cursor, cursor.StandsIn tree → cursor ≠ .root tree →
    ∃ (parent : Cursor) (index : Nat), parent.StandsIn tree ∧
      cursor.parent? tree = some parent ∧ parent.child? index = some cursor ∧
        ∀ (other : Cursor) (place : Nat), other.StandsIn tree →
          other.node.child? place = some cursor.node → other = parent ∧ place = index
  /-- Following parents ends at the root. -/
  ascends : ∀ cursor : Cursor, cursor.StandsIn tree →
    Relation.ReflTransGen (fun lower upper => lower.parent? tree = some upper) cursor
      (.root tree)
  /-- Both ends of a node below the root are places of the document, one behind the other. -/
  places : ∀ cursor : Cursor, cursor.StandsIn tree → cursor ≠ .root tree →
    cursor.node.span.start.IsIn tree.content ∧ cursor.node.span.stop.IsIn tree.content ∧
      cursor.node.span.start < cursor.node.span.stop ∧
        cursor.node.span.stop.byte ≤ utf8Length tree.content
  /-- The text of a node below the root can be cut out of the document. -/
  slices : ∀ cursor : Cursor, cursor.StandsIn tree → cursor ≠ .root tree →
    slice? tree.content cursor.node.span.start.byte cursor.node.span.stop.byte =
      some (tree.text cursor.node).toList
  /-- A branch below the root reaches from its first to its last child. -/
  tight : ∀ cursor : Cursor, cursor.StandsIn tree → cursor ≠ .root tree →
    (∀ first ∈ cursor.node.children.head?, cursor.node.span.start = first.span.start) ∧
      ∀ last ∈ cursor.node.children.getLast?, cursor.node.span.stop = last.span.stop
  /-- Siblings come one after another. -/
  siblings : ∀ cursor : Cursor, cursor.StandsIn tree →
    cursor.node.children.Pairwise fun first second => first.span.stop ≤ second.span.start

/-- The root covers the document. -/
theorem span_root_parse (source : String) :
    (parse source).root.span = ⟨⟨0, ⟨0, 0⟩⟩,
      ⟨utf8Length source.toList,
        ⟨source.toList.count '\n', utf8Length (lastLine source.toList)⟩⟩⟩ := by
  have stop : Mark.origin.after source.toList =
      ⟨utf8Length source.toList, (Mark.origin.after source.toList).point⟩ := by
    rw [Mark.mk.injEq, Mark.byte_after]
    exact ⟨Nat.zero_add _, rfl⟩
  change (⟨Mark.origin, Mark.origin.after source.toList⟩ : Span) = _
  rw [stop, Mark.point_after_origin]
  rfl

/-- A node of a document stands at one place only. -/
theorem place_unique {source : String} {cursor parent other : Cursor} {index place : Nat}
    (standsIn : parent.StandsIn (parse source)) (isChild : parent.child? index = some cursor)
    (otherStandsIn : other.StandsIn (parse source))
    (isNode : other.node.child? place = some cursor.node) : other = parent ∧ place = index := by
  have isOther : other.child? place = some ⟨other.path ++ [place], cursor.node⟩ :=
    Cursor.child?_eq_some_iff.mpr ⟨rfl, isNode⟩
  have samePath : other.path ++ [place] = cursor.path :=
    (orderly_parse source).path_unique (otherStandsIn.of_child? isOther)
      (standsIn.of_child? isChild)
  rw [(Cursor.child?_eq_some_iff.mp isChild).1] at samePath
  obtain ⟨above, last⟩ := List.append_inj' samePath rfl
  exact ⟨otherStandsIn.eq_of_path_eq standsIn above, List.singleton_inj.mp last⟩

/-- A branch reaches from its first to its last child. -/
theorem tight_of_formed {node : Node} (formed : node.Formed) :
    (∀ first ∈ node.children.head?, node.span.start = first.span.start) ∧
      ∀ last ∈ node.children.getLast?, node.span.stop = last.span.stop := by
  cases node with
  | leaf kind token => exact ⟨nofun, nofun⟩
  | branch kind span children =>
      obtain ⟨-, first, others, shape⟩ := formed.exists_enclose
      rw [shape, Node.children_enclose]
      constructor
      · intro head isHead
        rw [← Option.some.inj isHead]
        rfl
      · intro last isLast
        rw [List.getLast?_eq_some_getLast (List.cons_ne_nil first others)] at isLast
        rw [← Option.some.inj isLast]
        rfl

/-- The tree of every document is well-formed. -/
theorem wellFormed_parse (source : String) : (parse source).WellFormed where
  span_root := span_root_parse source
  parent?_eq_none_iff cursor standsIn := standsIn.parent?_eq_none_iff
  exists_place cursor standsIn notRoot := by
    obtain ⟨parent, index, parentStandsIn, isChild⟩ := standsIn.exists_parent notRoot
    refine ⟨parent, index, parentStandsIn, parentStandsIn.parent?_child isChild, isChild, ?_⟩
    intro other place otherStandsIn isNode
    exact place_unique parentStandsIn isChild otherStandsIn isNode
  ascends cursor standsIn := standsIn.ascends
  places cursor standsIn notRoot := by
    have member := standsIn.mem_descendants notRoot
    obtain ⟨text, -, delimits⟩ := exists_delimits member
    exact ⟨delimits.isIn_start, delimits.isIn_stop,
      ((orderly_parse source).below member).start_lt_stop, delimits.byte_stop_le⟩
  slices cursor standsIn notRoot := by
    obtain ⟨text, -, delimits⟩ := exists_delimits (standsIn.mem_descendants notRoot)
    rw [SyntaxTree.text, Node.text, content_parse, delimits.slice?_eq, Option.getD_some,
      String.toList_ofList]
  tight cursor standsIn notRoot :=
    tight_of_formed (formed_of_mem_descendants (standsIn.mem_descendants notRoot))
  siblings cursor standsIn := standsIn.orderly_children.pairwise_span

end SyntaxTree

end SetScript
