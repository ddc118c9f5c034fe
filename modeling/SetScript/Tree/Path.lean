import SetScript.Tree.Node

/-!
# Paths in a tree

A node of a tree is identified by its path: the indices of the children to
follow from the root.  Two nodes with equal content have different paths, and
the path of a parent is the path without its last step.
-/

namespace SetScript

/-- The indices of the children to follow from a node. -/
abbrev Path := List Nat

namespace Node

/-- The node at the end of a path. -/
def follow? (node : Node) : Path → Option Node
  | [] => some node
  | index :: path => (node.child? index).bind fun child => follow? child path

@[simp]
theorem follow?_nil (node : Node) : node.follow? [] = some node :=
  rfl

@[simp]
theorem follow?_cons (node : Node) (index : Nat) (path : Path) :
    node.follow? (index :: path) = (node.child? index).bind (·.follow? path) :=
  rfl

/-- The path without its last step, unless it is empty. -/
def parentPath? (path : Path) : Option Path :=
  if path.isEmpty then none else some path.dropLast

/-- The index among all children of a child counted without punctuation. -/
def namedIndex? (node : Node) (index : Nat) : Option Nat :=
  ((node.children.zipIdx.filter fun (child, _) => child.isNamed)[index]?).map Prod.snd

end Node

end SetScript
