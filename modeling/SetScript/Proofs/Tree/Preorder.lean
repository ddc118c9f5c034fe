import SetScript.Proofs.Tree.Outline
import SetScript.Proofs.Tree.WellFormed

/-!
# Searching a tree

Nodes of one kind are searched for with a stack.  A search takes the node on top of the stack and
puts its children in its place, the first one on top.  The stack then holds what is still to be
visited, from the end of the document to its start, however many lists are open.  So a search ends,
and it has found the nodes of the kind in the order in which recursion lists them: parents before
children, and children one after another.

In a document, nodes of one kind start at ever later bytes, because no node starts with a child of
its own kind.
-/

namespace SetScript

open Text

/-- A search through a tree: the nodes to be visited, the next one last, and what was found. -/
structure Search where
  stack : List Node
  found : List Node

namespace Search

/-- The search for nodes below a node. -/
def below (node : Node) : Search :=
  ⟨node.children.reverse, []⟩

/-- Visit the node on top of the stack and put its children in its place, in reverse order.
Without a node to visit there is no step. -/
def step (kind : Kind) (search : Search) : Option Search :=
  search.stack.getLast?.map fun node =>
    ⟨search.stack.dropLast ++ node.children.reverse,
      if node.kind = kind then search.found ++ [node] else search.found⟩

/-- One search is a step of another. -/
def Steps (kind : Kind) (search next : Search) : Prop :=
  search.step kind = some next

/-- A search that found everything stops. -/
theorem step_nil (kind : Kind) (found : List Node) : step kind ⟨[], found⟩ = none :=
  rfl

/-- The nodes to be visited are those of a traversal, from the last to the first. -/
theorem steps_reverse_cons (kind : Kind) (node : Node) (rest found : List Node) :
    Steps kind ⟨(node :: rest).reverse, found⟩
      ⟨(node.children ++ rest).reverse, found ++ [node].filter (·.kind == kind)⟩ := by
  have top : (node :: rest).reverse.getLast? = some node := by
    rw [List.getLast?_reverse, List.head?_cons]
  have others : (node :: rest).reverse.dropLast = rest.reverse := by
    rw [List.dropLast_reverse, List.tail_cons]
  rw [Steps, step, top, Option.map_some, others, List.reverse_append]
  by_cases same : node.kind = kind <;> simp [same]

/-- A search finds what a traversal of the nodes to be visited meets. -/
theorem reaches (kind : Kind) (work found : List Node) :
    Relation.ReflTransGen (Steps kind) ⟨work.reverse, found⟩
      ⟨[], found ++ (Node.traverse work).filter (·.kind == kind)⟩ := by
  fun_induction Node.traverse work generalizing found with
  | case1 =>
      rw [List.filter_nil, List.append_nil]
      exact .refl
  | case2 node rest ih =>
      have visited : (node :: Node.traverse (node.children ++ rest)).filter (·.kind == kind) =
          [node].filter (·.kind == kind) ++
            (Node.traverse (node.children ++ rest)).filter (·.kind == kind) :=
        List.filter_append [node] _
      rw [visited, ← List.append_assoc]
      exact .head (steps_reverse_cons kind node rest found) (ih _)

end Search

namespace Node

/-- A branch starts with a leaf of another kind. -/
theorem Formed.exists_first {kind : Kind} {span : Span} {children : List Node}
    (formed : Formed (branch kind span children)) :
    ∃ first others, children = first :: others ∧ first.children = [] ∧ first.kind ≠ kind ∧
      span.start = first.span.start := by
  cases formed with
  | parenthesized opens => exact ⟨_, _, rfl, rfl, nofun, rfl⟩
  | arguments opens => exact ⟨_, _, rfl, rfl, nofun, rfl⟩
  | call identifier opens => exact ⟨_, _, rfl, rfl, nofun, rfl⟩

namespace Orderly

variable {nodes : List Node} {node : Node}

/-- A forest stays orderly when the children of its first tree take the place of the tree. -/
theorem children_append {rest : List Node} (orderly : Orderly (node :: rest)) :
    Orderly (node.children ++ rest) where
  formed inner found := by
    apply orderly.formed
    rw [traverse]
    exact List.mem_cons_of_mem node found
  ordered := by
    have ordered := orderly.ordered
    rw [List.flatMap_cons] at ordered
    rw [List.flatMap_append]
    cases node with
    | leaf kind token => exact ordered.sublist (List.sublist_append_right _ _)
    | branch kind span children =>
        rw [leaves_branch] at ordered
        exact ordered

/-- What is met in later trees starts behind the start of the first tree. -/
theorem start_lt_of_mem_rest {rest : List Node} (orderly : Orderly (node :: rest)) {inner : Node}
    (later : inner ∈ traverse rest) : node.span.start < inner.span.start := by
  rcases mem_traverse_iff.mp later with ⟨tree, isTree, inTree⟩
  have inside : inner ∈ traverse [tree] :=
    mem_traverse_iff.mpr ⟨tree, List.mem_singleton_self tree, inTree⟩
  have proper := (orderly.single List.mem_cons_self).start_lt_stop
  have apart := (List.pairwise_cons.mp orderly.pairwise_span).1 tree isTree
  have behind := ((orderly.single (List.mem_cons_of_mem node isTree)).span_le inside).1
  exact ⟨Nat.lt_of_lt_of_le proper.1 (Nat.le_trans apart.1 behind.1),
    lt_of_lt_of_le proper.2 (le_trans apart.2 behind.2)⟩

/-- What is below a node and of its kind starts behind the start of the node. -/
theorem start_lt_of_mem_descendants (orderly : Orderly [node]) {inner : Node}
    (member : inner ∈ node.descendants) (same : node.kind = inner.kind) :
    node.span.start < inner.span.start := by
  cases node with
  | leaf kind token =>
      rw [descendants, Node.children, traverse_nil] at member
      cases member
  | branch kind span children =>
      have formed := orderly.formed _ (mem_traverse_of_mem (List.mem_singleton_self _))
      rcases formed.exists_first with ⟨first, others, rfl, childless, other, start⟩
      rw [descendants, Node.children, traverse_cons, childless, traverse_nil, List.nil_append]
        at member
      rcases List.mem_cons.mp member with rfl | later
      · exact absurd same.symm other
      · rw [span_branch, start]
        exact orderly.children.start_lt_of_mem_rest later

/-- Of the nodes of one kind, those that are met later start later. -/
theorem pairwise_traverse (orderly : Orderly nodes) :
    (traverse nodes).Pairwise fun first second =>
      first.kind = second.kind → first.span.start < second.span.start := by
  -- The work list of a traversal stays orderly, and its first tree is met before all else.
  fun_induction traverse nodes with
  | case1 => exact .nil
  | case2 node rest ih =>
      rw [List.pairwise_cons]
      constructor
      · intro inner member same
        rw [traverse_append, List.mem_append] at member
        rcases member with inside | later
        · exact (orderly.single List.mem_cons_self).start_lt_of_mem_descendants inside same
        · exact orderly.start_lt_of_mem_rest later
      · exact ih orderly.children_append

/-- The nodes of one kind below a node start at ever later bytes. -/
theorem pairwise_descendantsOfKind (orderly : Orderly node.children) (kind : Kind) :
    (node.descendantsOfKind kind).Pairwise fun first second =>
      first.span.start.byte < second.span.start.byte := by
  apply (orderly.pairwise_traverse.sublist List.filter_sublist).imp_of_mem
  intro first second isFirst isSecond later
  have firstKind := beq_iff_eq.mp (List.mem_filter.mp isFirst).2
  have secondKind := beq_iff_eq.mp (List.mem_filter.mp isSecond).2
  exact (later (firstKind.trans secondKind.symm)).1

end Orderly

/-- A list holds the nodes of one kind below a node, as a search finds them. -/
structure ListsBelow (node : Node) (kind : Kind) (nodes : List Node) : Prop where
  /-- A search with a stack comes to its end, and has found these nodes. -/
  found : ∃ last : Search, Relation.ReflTransGen (Search.Steps kind) (.below node) last ∧
    last.step kind = none ∧ last.found = nodes
  /-- They come in the order in which recursion lists them, parents before children. -/
  preorder : nodes = ((outlineAll 1 node.children).map Prod.snd).filter (·.kind == kind)
  /-- They are the nodes of the kind that paths below the node lead to, each by one path. -/
  mem_iff : ∀ inner, inner ∈ nodes ↔
    inner.kind = kind ∧ ∃! path : Path, path ≠ [] ∧ node.follow? path = some inner
  /-- Each stands in the list once. -/
  nodup : nodes.Nodup
  /-- They start at ever later bytes, also where one is below another. -/
  increasing : nodes.Pairwise fun first second => first.span.start.byte < second.span.start.byte

/-- The nodes below a node, of one kind, are those that paths lead to. -/
theorem mem_descendantsOfKind_iff {node inner : Node} {kind : Kind} :
    inner ∈ node.descendantsOfKind kind ↔
      inner.kind = kind ∧ ∃ path : Path, path ≠ [] ∧ node.follow? path = some inner := by
  rw [descendantsOfKind, List.mem_filter, beq_iff_eq, and_comm]
  apply and_congr_right
  intro _
  constructor
  · exact exists_follow?_of_mem_descendants
  · rintro ⟨path, below, follows⟩
    exact mem_descendants_of_follow? follows below

end Node

/-- The nodes of one kind below any node of a document are found by a search with a stack, in the
order of recursion, each once and at ever later bytes. -/
theorem SyntaxTree.listsBelow_descendantsOfKind {source : String} {cursor : Cursor}
    (standsIn : cursor.StandsIn (parse source)) (kind : Kind) :
    cursor.node.ListsBelow kind (cursor.node.descendantsOfKind kind) where
  found := ⟨⟨[], cursor.node.descendantsOfKind kind⟩,
    Search.reaches kind cursor.node.children [], Search.step_nil kind _, rfl⟩
  preorder := by
    rw [Node.map_snd_outlineAll]
    rfl
  mem_iff inner := by
    rw [Node.mem_descendantsOfKind_iff]
    apply and_congr_right
    intro _
    constructor
    · rintro ⟨path, below, follows⟩
      refine ⟨path, ⟨below, follows⟩, ?_⟩
      rintro other ⟨-, alsoFollows⟩
      exact standsIn.orderly_children.path_unique alsoFollows follows
    · exact ExistsUnique.exists
  nodup := by
    apply (standsIn.orderly_children.pairwise_descendantsOfKind kind).imp
    rintro first second later rfl
    exact Nat.lt_irrefl _ later
  increasing := standsIn.orderly_children.pairwise_descendantsOfKind kind

/-- Of two calls that no parenthesis closes, the outer one is listed before the inner one. -/
theorem SyntaxTree.listsBelow_descendantsOfKind_nested :
    let root := (parse "f((f(1").root
    root.ListsBelow .call (root.descendantsOfKind .call) ∧
      (root.descendantsOfKind .call).map (·.span.start.byte) = [0, 3] :=
  ⟨listsBelow_descendantsOfKind (Cursor.standsIn_root (parse "f((f(1")) .call, by decide +kernel⟩

end SetScript
