import SetScript.Binding

/-!
# Walking through a tree

A cursor stands on a node of a tree and moves to its children, to its parent, to
the first argument of the call it stands on, or to any point of the document.
Two cursors on one tree stand on the same node exactly when their paths agree.
-/

namespace SetScript

open Text

/-- A node of a tree together with its path. -/
structure Cursor where
  path : Path
  node : Node

namespace Cursor

/-- The cursor on the root of a tree. -/
def root (tree : SyntaxTree) : Cursor :=
  ⟨[], tree.root⟩

/-- The cursor at the end of a path. -/
def at? (tree : SyntaxTree) (path : Path) : Option Cursor :=
  (tree.root.follow? path).map fun node => ⟨path, node⟩

def child? (cursor : Cursor) (index : Nat) : Option Cursor :=
  (cursor.node.child? index).map fun node => ⟨cursor.path ++ [index], node⟩

def namedChild? (cursor : Cursor) (index : Nat) : Option Cursor :=
  (cursor.node.namedIndex? index).bind cursor.child?

def parent? (tree : SyntaxTree) (cursor : Cursor) : Option Cursor :=
  (Node.parentPath? cursor.path).bind (at? tree)

/-- The cursor on the first argument of a call. -/
def firstArgument? (cursor : Cursor) : Option Cursor :=
  (Binding.firstArgument? cursor.node).bind fun _ =>
    (cursor.namedChild? 1).bind fun list => list.child? Binding.leadingDelimiters

/-- The cursor on the smallest node at a point of the document. -/
def atPoint (tree : SyntaxTree) (point : Point) : Cursor :=
  ⟨tree.pathAt point, tree.nodeAt point⟩

end Cursor

end SetScript
