import SetScript.Proofs.Grammar.Clean
import SetScript.Proofs.Tree.Path

/-!
# How deep nodes nest

Lists are opened only while fewer than `maxDepth` of them are open.  So no path from the root of a
document passes more lists than that, and since a list adds at most two levels, its own and that of
a call around it, the length of the paths is bounded as well.
-/

namespace SetScript

/-- Argument lists and parenthesized lists are lists. -/
def Kind.isList (kind : Kind) : Bool :=
  kind.enclosure?.isSome

namespace Node

/-- The nodes on a path, both ends included. -/
def along (node : Node) : Path → List Node
  | [] => [node]
  | index :: path =>
      match node.child? index with
      | some child => node :: along child path
      | none => [node]

/-- The number of lists on a path. -/
def listsAlong (node : Node) (path : Path) : Nat :=
  (node.along path).countP (·.kind.isList)

theorem listsAlong_nil (node : Node) : node.listsAlong [] = node.kind.isList.toNat := by
  rw [listsAlong, along, List.countP_singleton]
  cases node.kind.isList <;> rfl

theorem listsAlong_cons {node child : Node} {index : Nat} (isChild : node.child? index = some child)
    (path : Path) :
    node.listsAlong (index :: path) = child.listsAlong path + node.kind.isList.toNat := by
  rw [listsAlong, along, isChild, List.countP_cons, listsAlong]
  cases node.kind.isList <;> rfl

/-- No path from a node passes more lists, or makes more steps. -/
def Within (lists steps : Nat) (node : Node) : Prop :=
  ∀ path inner, node.follow? path = some inner →
    node.listsAlong path ≤ lists ∧ path.length ≤ steps

theorem Within.mono {lists more steps longer : Nat} {node : Node} (within : node.Within lists steps)
    (fewer : lists ≤ more) (shorter : steps ≤ longer) : node.Within more longer := by
  intro path inner follows
  rcases within path inner follows with ⟨listsLe, stepsLe⟩
  exact ⟨Nat.le_trans listsLe fewer, Nat.le_trans stepsLe shorter⟩

/-- There is no way on from a leaf. -/
theorem within_leaf {kind : Kind} (noList : kind.isList = false) (token : Token)
    (lists steps : Nat) : (leaf kind token).Within lists steps := by
  intro path inner follows
  cases path with
  | nil =>
      rw [listsAlong_nil, kind_leaf, noList]
      exact ⟨Nat.zero_le _, Nat.zero_le _⟩
  | cons index path => cases follows

/-- A node adds a step to the paths from its children, and itself if it is a list. -/
theorem within_of_children {node : Node} {lists steps : Nat}
    (inner : ∀ child ∈ node.children, child.Within lists steps) :
    node.Within (lists + node.kind.isList.toNat) (steps + 1) := by
  intro path target follows
  cases path with
  | nil =>
      rw [listsAlong_nil]
      exact ⟨Nat.le_add_left _ _, Nat.zero_le _⟩
  | cons index path =>
      rcases Option.bind_eq_some_iff.mp follows with ⟨child, isChild, rest⟩
      have within := inner child (List.mem_of_getElem? isChild) path target rest
      rw [listsAlong_cons isChild, List.length_cons]
      exact ⟨Nat.add_le_add_right within.1 _, Nat.succ_le_succ within.2⟩

/-- A list takes up one of the lists that may be open, and one level. -/
theorem within_list (kind : Kind) (isList : kind.isList = true) (paren : Token) {body : List Node}
    {room : Nat} (inner : ∀ node ∈ body, node.Within room (2 * room)) :
    (enclose kind (leaf .punctuation paren) body).Within (room + 1) (2 * room + 1) := by
  have within : (enclose kind (leaf .punctuation paren) body).Within
      (room + kind.isList.toNat) (2 * room + 1) := by
    apply within_of_children
    rw [children_enclose, List.forall_mem_cons]
    exact ⟨within_leaf rfl paren _ _, inner⟩
  rw [isList] at within
  exact within

/-- A call adds one more level to its arguments. -/
theorem within_call (callee paren : Token) {body : List Node} {room : Nat}
    (inner : ∀ node ∈ body, node.Within room (2 * room)) :
    (enclose .call (leaf .identifier callee)
      [enclose .arguments (leaf .punctuation paren) body]).Within (room + 1) (2 * (room + 1)) := by
  have list := within_list .arguments rfl paren inner
  apply within_of_children
  rw [children_enclose, List.forall_mem_cons, List.forall_mem_singleton]
  exact ⟨within_leaf rfl callee _ _, list⟩

end Node

namespace Forest

open Node

/-- Where some lists are open, what is read has room for the others. -/
theorem Reads.within {enclosure : Enclosure} {depth : Nat} {tokens rest : List Token}
    {nodes : List Node} (reads : Reads enclosure depth tokens nodes rest) :
    ∀ node ∈ nodes, node.Within (maxDepth - depth) (2 * (maxDepth - depth)) := by
  induction reads with
  | done => simp
  | leaf isLeaf others ih =>
      have noList := Kind.enclosure?_of_fits (fits_of_role_eq_leaf isLeaf)
      rw [List.forall_mem_cons]
      exact ⟨within_leaf (by rw [Kind.isList, noList]; rfl) _ _ _, ih⟩
  | close kind inside =>
      rw [List.forall_mem_singleton]
      exact within_leaf rfl _ _ _
  | stop kind inside => simp
  | @list enclosure depth paren tokens later rest body nodes kind room inner others innerIh ih =>
      have within := within_list .parenthesized rfl paren innerIh
      rw [List.forall_mem_cons]
      exact ⟨within.mono (by omega) (by omega), ih⟩
  | @call enclosure depth callee paren tokens later rest body nodes kind opens room inner others
      innerIh ih =>
      have within := within_call callee paren innerIh
      rw [List.forall_mem_cons]
      exact ⟨within.mono (by omega) (by omega), ih⟩

end Forest

/-- The paths of a document pass at most `maxDepth` lists and make at most one step more than two
for each list. -/
theorem SyntaxTree.within_root_parse (source : String) :
    (parse source).root.Within Forest.maxDepth (2 * Forest.maxDepth + 1) :=
  Node.within_of_children (Forest.reads_read .document 0 (Token.scan source.toList)).within

end SetScript
