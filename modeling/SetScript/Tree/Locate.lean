import SetScript.Tree.Path

/-!
# The node at a point

A node contains the points from its start up to, but not including, its end; a
point exactly at the end of a node touches it.  At each level a named child that
contains the point is entered first, then a named child that the point touches,
then punctuation that contains it, then punctuation that it touches.  So the
point between a literal and the parenthesis after it belongs to the literal.
-/

namespace SetScript.Node

open Text

/-- The child to enter in search of a point, with its index. -/
def childAt? (children : List Node) (point : Point) : Option (Node × Nat) :=
  let indexed := children.zipIdx
  let contains (node : Node) : Bool := node.span.contains point
  let touches (node : Node) : Bool := node.span.endsAt point
  (indexed.find? fun (node, _) => node.isNamed && contains node).or <|
    (indexed.reverse.find? fun (node, _) => node.isNamed && touches node).or <|
      (indexed.find? fun (node, _) => !node.isNamed && contains node).or <|
        indexed.reverse.find? fun (node, _) => !node.isNamed && touches node

/-- The child to enter is one of the children. -/
theorem mem_of_childAt?_eq_some {children : List Node} {point : Point} {node : Node}
    {index : Nat} (found : childAt? children point = some (node, index)) :
    node ∈ children := by
  have indexed : (node, index) ∈ children.zipIdx := by
    simp only [childAt?, Option.or_eq_some_iff] at found
    rcases found with first | ⟨-, second | ⟨-, third | ⟨-, fourth⟩⟩⟩
    · exact List.mem_of_find?_eq_some first
    · exact List.mem_reverse.mp (List.mem_of_find?_eq_some second)
    · exact List.mem_of_find?_eq_some third
    · exact List.mem_reverse.mp (List.mem_of_find?_eq_some fourth)
  exact (List.mem_zipIdx' indexed).2 ▸ List.getElem_mem _

/-- The path from a node to the smallest node at a point. -/
def locate (point : Point) : Node → Path
  | leaf _ _ => []
  | branch _ _ children =>
      match found : childAt? children point with
      | none => []
      | some (child, index) =>
          have : sizeOf child < sizeOf children :=
            List.sizeOf_lt_of_mem (mem_of_childAt?_eq_some found)
          index :: locate point child
termination_by node => sizeOf node

end SetScript.Node
