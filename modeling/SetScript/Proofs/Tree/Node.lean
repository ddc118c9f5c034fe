import SetScript.Tree.Node
import SetScript.Proofs.Lexical.Token

/-!
# Traversal and leaves

The work list of `traverse` splits where the forest does, so a traversal can be
followed node by node.  The leaves of a node are the tokens met on the way.

A forest keeps to a token list when its leaves are those tokens.  Nodes are moved
within their document together with their tokens.
-/

namespace SetScript.Node

open Text

/-- Induction over nodes: a branch may use the statement for its children. -/
@[elab_as_elim]
theorem induction {motive : Node → Prop} (leaf : ∀ kind token, motive (.leaf kind token))
    (branch : ∀ kind span children, (∀ child ∈ children, motive child) →
      motive (.branch kind span children))
    (node : Node) : motive node := by
  match node with
  | .leaf kind token => exact leaf kind token
  | .branch kind span children =>
      refine branch kind span children fun child member => ?_
      have : sizeOf child < sizeOf children := List.sizeOf_lt_of_mem member
      exact induction leaf branch child
termination_by sizeOf node

/-! ## Traversal -/

@[simp]
theorem traverse_nil : traverse [] = [] := by
  rw [traverse]

theorem traverse_append (first second : List Node) :
    traverse (first ++ second) = traverse first ++ traverse second := by
  fun_induction traverse first with
  | case1 => rfl
  | case2 node rest ih =>
      rw [List.cons_append, traverse, ← List.append_assoc, ih, List.cons_append]

/-- A node is met before its children, and these before what follows the node. -/
theorem traverse_cons (node : Node) (rest : List Node) :
    traverse (node :: rest) = node :: (traverse node.children ++ traverse rest) := by
  rw [traverse, traverse_append]

@[simp]
theorem traverse_leaf_cons (kind : Kind) (token : Token) (rest : List Node) :
    traverse (leaf kind token :: rest) = leaf kind token :: traverse rest := by
  rw [traverse_cons, children, traverse_nil, List.nil_append]

@[simp]
theorem traverse_branch_cons (kind : Kind) (span : Span) (children rest : List Node) :
    traverse (branch kind span children :: rest) =
      branch kind span children :: (traverse children ++ traverse rest) :=
  traverse_cons _ _

/-- The nodes of a forest are met. -/
theorem mem_traverse_of_mem {node : Node} {nodes : List Node} (member : node ∈ nodes) :
    node ∈ traverse nodes := by
  obtain ⟨first, second, rfl⟩ := List.append_of_mem member
  rw [traverse_append, traverse_cons]
  simp

/-- What is met below a node that is met in a forest is met in the forest. -/
theorem traverse_children_subset {node : Node} {nodes : List Node}
    (member : node ∈ traverse nodes) : traverse node.children ⊆ traverse nodes := by
  fun_induction traverse nodes with
  | case1 => cases member
  | case2 first rest ih =>
      rcases List.mem_cons.mp member with rfl | later
      · rw [traverse_append]
        exact List.subset_cons_of_subset _ (List.subset_append_left _ _)
      · exact List.subset_cons_of_subset _ (ih later)

/-- A node met in a forest is met in one of its trees. -/
theorem mem_traverse_iff {node : Node} {nodes : List Node} :
    node ∈ traverse nodes ↔ ∃ tree ∈ nodes, node = tree ∨ node ∈ traverse tree.children := by
  induction nodes with
  | nil => simp
  | cons first rest ih =>
      rw [traverse_cons, List.mem_cons, List.mem_append, ih]
      simp [or_assoc]

/-! ## Branches around their children -/

@[simp]
theorem kind_leaf (kind : Kind) (token : Token) : (leaf kind token).kind = kind :=
  rfl

@[simp]
theorem span_branch (kind : Kind) (span : Span) (children : List Node) :
    (branch kind span children).span = span :=
  rfl

@[simp]
theorem kind_enclose (kind : Kind) (first : Node) (others : List Node) :
    (enclose kind first others).kind = kind :=
  rfl

@[simp]
theorem children_enclose (kind : Kind) (first : Node) (others : List Node) :
    (enclose kind first others).children = first :: others :=
  rfl

@[simp]
theorem traverse_enclose_cons (kind : Kind) (first : Node) (others rest : List Node) :
    traverse (enclose kind first others :: rest) =
      enclose kind first others :: (traverse (first :: others) ++ traverse rest) :=
  traverse_cons _ _

/-! ## Leaves -/

/-- The token that a leaf holds. -/
def token? : Node → Option Token
  | leaf _ token => some token
  | branch _ _ _ => none

@[simp]
theorem token?_leaf (kind : Kind) (token : Token) : token? (leaf kind token) = some token :=
  rfl

@[simp]
theorem token?_enclose (kind : Kind) (first : Node) (others : List Node) :
    token? (enclose kind first others) = none :=
  rfl

theorem literal?_eq (node : Node) : node.literal? = node.token?.map Token.text := by
  cases node <;> rfl

/-- The tokens of a tree, in document order. -/
def leaves (node : Node) : List Token :=
  (traverse [node]).filterMap token?

@[simp]
theorem leaves_leaf (kind : Kind) (token : Token) : leaves (leaf kind token) = [token] := by
  simp [leaves]

theorem filterMap_token?_traverse (nodes : List Node) :
    (traverse nodes).filterMap token? = nodes.flatMap leaves := by
  induction nodes with
  | nil => simp
  | cons node rest ih =>
      rw [← List.singleton_append, traverse_append, List.filterMap_append, ih,
        List.flatMap_append, List.flatMap_singleton, leaves]

@[simp]
theorem leaves_branch (kind : Kind) (span : Span) (children : List Node) :
    leaves (branch kind span children) = children.flatMap leaves := by
  rw [leaves, traverse_branch_cons, traverse_nil, List.append_nil,
    List.filterMap_cons_none rfl, filterMap_token?_traverse]

@[simp]
theorem leaves_enclose (kind : Kind) (first : Node) (others : List Node) :
    leaves (enclose kind first others) = (first :: others).flatMap leaves :=
  leaves_branch _ _ _

/-- The tokens of a child are tokens of its parent. -/
theorem leaves_subset_of_mem_children {node child : Node} (member : child ∈ node.children) :
    child.leaves ⊆ node.leaves := by
  cases node with
  | leaf kind token => cases member
  | branch kind span children =>
      intro token held
      rw [leaves_branch]
      exact List.mem_flatMap.mpr ⟨child, member, held⟩

/-- A leaf met in a tree holds one of its tokens. -/
theorem mem_leaves_of_mem_traverse {kind : Kind} {token : Token} {nodes : List Node}
    (member : leaf kind token ∈ traverse nodes) : token ∈ nodes.flatMap leaves := by
  rw [← filterMap_token?_traverse]
  exact List.mem_filterMap.mpr ⟨_, member, rfl⟩

/-! ## Moving nodes -/

mutual

/-- A tree moved on by some bytes and down by some rows. -/
def shift (bytes rows : Nat) : Node → Node
  | leaf kind token => leaf kind (token.shift bytes rows)
  | branch kind span children =>
      branch kind (span.shift bytes rows) (shiftAll bytes rows children)

/-- A forest moved on by some bytes and down by some rows. -/
def shiftAll (bytes rows : Nat) : List Node → List Node
  | [] => []
  | node :: rest => shift bytes rows node :: shiftAll bytes rows rest

end

variable (bytes rows : Nat)

theorem shiftAll_eq_map (nodes : List Node) :
    shiftAll bytes rows nodes = nodes.map (shift bytes rows) := by
  induction nodes with
  | nil => rfl
  | cons node rest ih => rw [shiftAll, ih, List.map_cons]

@[simp]
theorem shift_leaf (kind : Kind) (token : Token) :
    (leaf kind token).shift bytes rows = leaf kind (token.shift bytes rows) := by
  rw [shift]

@[simp]
theorem span_shift (node : Node) :
    (node.shift bytes rows).span = node.span.shift bytes rows := by
  cases node <;> simp [shift, span, Token.shift]

@[simp]
theorem kind_shift (node : Node) : (node.shift bytes rows).kind = node.kind := by
  cases node <;> simp [shift, kind]

@[simp]
theorem isNamed_shift (node : Node) : (node.shift bytes rows).isNamed = node.isNamed := by
  rw [isNamed, kind_shift, isNamed]

@[simp]
theorem children_shift (node : Node) :
    (node.shift bytes rows).children = node.children.map (shift bytes rows) := by
  cases node <;> simp [shift, children, shiftAll_eq_map]

@[simp]
theorem literal?_shift (node : Node) : (node.shift bytes rows).literal? = node.literal? := by
  cases node <;> simp [shift, literal?, Token.shift]

@[simp]
theorem child?_shift (node : Node) (index : Nat) :
    (node.shift bytes rows).child? index = (node.child? index).map (shift bytes rows) := by
  rw [child?, children_shift, List.getElem?_map, child?]

@[simp]
theorem namedChild?_shift (node : Node) (index : Nat) :
    (node.shift bytes rows).namedChild? index =
      (node.namedChild? index).map (shift bytes rows) := by
  have sameNames : isNamed ∘ shift bytes rows = isNamed :=
    funext (isNamed_shift bytes rows)
  rw [namedChild?, namedChildren, children_shift, List.filter_map, sameNames, List.getElem?_map,
    namedChild?, namedChildren]

/-- A moved forest is traversed in the same order. -/
theorem traverse_map_shift (nodes : List Node) :
    traverse (nodes.map (shift bytes rows)) = (traverse nodes).map (shift bytes rows) := by
  fun_induction traverse nodes with
  | case1 => exact traverse_nil
  | case2 node rest ih =>
      rw [List.map_cons, traverse, children_shift, ← List.map_append, ih, List.map_cons]

/-- Moving a branch moves its first and its other children. -/
theorem shift_enclose (kind : Kind) (first : Node) (others : List Node) :
    (enclose kind first others).shift bytes rows =
      enclose kind (first.shift bytes rows) (others.map (shift bytes rows)) := by
  have last : ((first :: others).map (shift bytes rows)).getLast (by simp) =
      ((first :: others).getLast (by simp)).shift bytes rows :=
    List.getLast_map _
  rw [enclose, shift, shiftAll_eq_map, enclose]
  simp only [← List.map_cons, last, span_shift]
  rfl

end SetScript.Node
