import SetScript.Tree.Path
import SetScript.Proofs.Tree.Order

/-!
# Nodes by their paths

The nodes that paths lead to are the nodes that a traversal meets.  In an orderly
tree different paths lead to different nodes, because siblings cover different parts
of the document and a node is larger than what is below it.  So a node of a document
can be told by its path, and its path by the node.
-/

namespace SetScript.Node

open Text

theorem follow?_append (node : Node) (first second : Path) :
    node.follow? (first ++ second) = (node.follow? first).bind (·.follow? second) := by
  induction first generalizing node with
  | nil => rfl
  | cons index first ih =>
      rw [List.cons_append, follow?_cons, follow?_cons, Option.bind_assoc]
      exact Option.bind_congr fun child _ => ih child

@[simp]
theorem follow?_singleton (node : Node) (index : Nat) :
    node.follow? [index] = node.child? index := by
  rw [follow?_cons]
  exact Option.bind_fun_some _

/-- A child divides the other children into those before and those after it. -/
theorem exists_split_of_getElem? {nodes : List Node} {child : Node} {index : Nat}
    (isChild : nodes[index]? = some child) :
    ∃ before after, nodes = before ++ child :: after ∧ before.length = index := by
  obtain ⟨inside, rfl⟩ := List.getElem?_eq_some_iff.mp isChild
  refine ⟨nodes.take index, nodes.drop (index + 1), ?_, ?_⟩
  · rw [List.getElem_cons_drop, List.take_append_drop]
  · exact List.length_take_of_le (Nat.le_of_lt inside)

/-- A path leads to the node itself or to a node below it. -/
theorem mem_traverse_of_follow? {node inner : Node} {path : Path}
    (follows : node.follow? path = some inner) : inner ∈ traverse [node] := by
  induction path generalizing node with
  | nil =>
      rw [follow?_nil, Option.some.injEq] at follows
      rw [follows]
      exact mem_traverse_of_mem (List.mem_singleton_self inner)
  | cons index path ih =>
      obtain ⟨child, isChild, rest⟩ := Option.bind_eq_some_iff.mp follows
      have below := ih rest
      rw [traverse_cons, traverse_nil, List.append_nil, List.mem_cons] at below ⊢
      exact Or.inr (mem_traverse_iff.mpr ⟨child, List.mem_of_getElem? isChild, below⟩)

/-- A path that is not empty leads to a node below. -/
theorem mem_descendants_of_follow? {node inner : Node} {path : Path}
    (follows : node.follow? path = some inner) (below : path ≠ []) : inner ∈ node.descendants := by
  cases path with
  | nil => exact absurd rfl below
  | cons index path =>
      obtain ⟨child, isChild, rest⟩ := Option.bind_eq_some_iff.mp follows
      have met := mem_traverse_of_follow? rest
      rw [traverse_cons, traverse_nil, List.append_nil, List.mem_cons] at met
      exact mem_traverse_iff.mpr ⟨child, List.mem_of_getElem? isChild, met⟩

/-- What is met below a node can be reached by a path that is not empty. -/
theorem exists_follow?_of_mem_descendants {node inner : Node}
    (member : inner ∈ node.descendants) :
    ∃ path, path ≠ [] ∧ node.follow? path = some inner := by
  induction node using Node.induction with
  | leaf kind token =>
      rw [descendants, children, traverse_nil] at member
      cases member
  | branch kind span children ih =>
      obtain ⟨child, childMember, here⟩ := mem_traverse_iff.mp member
      obtain ⟨index, isChild⟩ := List.mem_iff_getElem?.mp childMember
      rcases here with rfl | below
      · exact ⟨[index], List.cons_ne_nil _ _, by rw [follow?_singleton]; exact isChild⟩
      · obtain ⟨path, -, follows⟩ := ih child childMember below
        refine ⟨index :: path, List.cons_ne_nil _ _, ?_⟩
        rw [follow?_cons]
        exact Option.bind_eq_some_iff.mpr ⟨child, isChild, follows⟩

/-- A forest has at least as many nodes as each tree that is met in it. -/
theorem size_le_of_mem_traverse {node : Node} {nodes : List Node}
    (member : node ∈ traverse nodes) : node.size ≤ sizeAll nodes := by
  fun_induction traverse nodes with
  | case1 => cases member
  | case2 first rest ih =>
      rw [sizeAll]
      rcases List.mem_cons.mp member with rfl | later
      · exact Nat.le_add_right _ _
      · have smaller := ih later
        rw [sizeAll_append] at smaller
        rw [size_eq first]
        omega

/-- No path below a node leads back to it. -/
theorem eq_nil_of_follow?_self {node : Node} {path : Path} (follows : node.follow? path = some node) :
    path = [] := by
  cases path with
  | nil => rfl
  | cons index path =>
      obtain ⟨child, isChild, rest⟩ := Option.bind_eq_some_iff.mp follows
      have inChild := size_le_of_mem_traverse (mem_traverse_of_follow? rest)
      have below := size_le_of_mem_traverse (mem_traverse_of_mem (List.mem_of_getElem? isChild))
      rw [sizeAll, sizeAll, Nat.add_zero] at inChild
      rw [size_eq node] at inChild
      omega

namespace Orderly

variable {nodes : List Node} {first second inner other : Node} {index later : Nat}

/-- What is met in a tree ends before anything that is met in a later sibling. -/
theorem stop_le_start_of_mem (orderly : Orderly nodes) (isFirst : nodes[index]? = some first)
    (isSecond : nodes[later]? = some second) (before : index < later)
    (inFirst : inner ∈ traverse [first]) (inSecond : other ∈ traverse [second]) :
    inner.span.stop ≤ other.span.start := by
  have orderlyFirst := orderly.single (List.mem_of_getElem? isFirst)
  have orderlySecond := orderly.single (List.mem_of_getElem? isSecond)
  have apart := orderly.stop_le_start isFirst isSecond before
  exact Mark.le_trans (orderlyFirst.span_le inFirst).2
    (Mark.le_trans apart (orderlySecond.span_le inSecond).1)

/-- Nothing is met in two siblings. -/
theorem not_mem_of_lt (orderly : Orderly nodes) (isFirst : nodes[index]? = some first)
    (isSecond : nodes[later]? = some second) (before : index < later)
    (inFirst : inner ∈ traverse [first]) : inner ∉ traverse [second] := by
  intro inSecond
  have ended := orderly.stop_le_start_of_mem isFirst isSecond before inFirst inSecond
  have proper := ((orderly.single (List.mem_of_getElem? isFirst)).below inFirst).start_lt_stop
  exact absurd ended.1 (Nat.not_le_of_lt proper.1)

/-- Only one path leads to a node. -/
theorem path_unique {node : Node} (orderly : Orderly node.children) {path way : Path}
    (follows : node.follow? path = some inner) (alsoFollows : node.follow? way = some inner) :
    path = way := by
  induction path generalizing node way with
  | nil =>
      obtain rfl : node = inner := Option.some.inj follows
      exact (eq_nil_of_follow?_self alsoFollows).symm
  | cons index path ih =>
      cases way with
      | nil =>
          obtain rfl : node = inner := Option.some.inj alsoFollows
          exact eq_nil_of_follow?_self follows
      | cons other way =>
          obtain ⟨child, isChild, rest⟩ := Option.bind_eq_some_iff.mp follows
          obtain ⟨otherChild, isOther, otherRest⟩ := Option.bind_eq_some_iff.mp alsoFollows
          have inChild := mem_traverse_of_follow? rest
          have inOther := mem_traverse_of_follow? otherRest
          rcases Nat.lt_trichotomy index other with before | rfl | behind
          · exact absurd inOther (orderly.not_mem_of_lt isChild isOther before inChild)
          · obtain rfl : child = otherChild := Option.some.inj (isChild.symm.trans isOther)
            have orderlyChild := orderly.single (List.mem_of_getElem? isChild)
            rw [ih orderlyChild.children rest otherRest]
          · exact absurd inChild (orderly.not_mem_of_lt isOther isChild behind inOther)

end Orderly

end SetScript.Node
