import SetScript.Binding
import SetScript.Proofs.Tree.Statement

/-!
# Bindings of several statements

What a call binds does not depend on where it stands: moving a call moves its first argument
and keeps its names.  So the names bound in two texts that a semicolon separates are those of
the first and those of the second.
-/

namespace SetScript.Binding

open Text

section Shift

variable (bytes rows : Nat)

/-- Moving keeps kinds. -/
theorem filter_kind_shift (kind : Kind) (node? : Option Node) :
    (node?.map (Node.shift bytes rows)).filter (·.kind == kind) =
      (node?.filter (·.kind == kind)).map (Node.shift bytes rows) := by
  rw [Option.filter_map]
  simp only [Function.comp_def, Node.kind_shift]

variable (node : Node)

@[simp]
theorem calleeName?_shift : calleeName? (node.shift bytes rows) = calleeName? node := by
  rw [calleeName?, calleeName?, Node.kind_shift, Node.namedChild?_shift, filter_kind_shift,
    Option.bind_map]
  simp only [Function.comp_def, Node.literal?_shift]

theorem argumentList?_shift :
    argumentList? (node.shift bytes rows) = (argumentList? node).map (Node.shift bytes rows) := by
  rw [argumentList?, argumentList?, Node.kind_shift, Node.namedChild?_shift, filter_kind_shift]
  split <;> rfl

theorem firstArgument?_shift :
    firstArgument? (node.shift bytes rows) = (firstArgument? node).map (Node.shift bytes rows) := by
  rw [firstArgument?, firstArgument?, argumentList?_shift, Option.bind_map, Option.map_bind]
  apply Option.bind_congr
  intro list _
  rw [Function.comp_apply, Node.child?_shift, Option.bind_map, Function.comp_apply, Option.map_bind]
  apply Option.bind_congr
  intro opening _
  rw [Function.comp_apply, Function.comp_apply, Node.isNamed_shift, Node.child?_shift,
    Option.filter_map]
  simp only [Function.comp_def, Node.isNamed_shift]
  split <;> rfl

theorem firstString?_shift :
    firstString? (node.shift bytes rows) = (firstString? node).map (Node.shift bytes rows) := by
  rw [firstString?, firstString?, firstArgument?_shift, filter_kind_shift]

@[simp]
theorem boundName?_shift : boundName? (node.shift bytes rows) = boundName? node := by
  rw [boundName?, boundName?, firstString?_shift, Option.bind_map]
  simp only [Function.comp_def, Node.literal?_shift]

@[simp]
theorem hasBindingCallee_shift :
    hasBindingCallee (node.shift bytes rows) = hasBindingCallee node := by
  rw [hasBindingCallee, calleeName?_shift, hasBindingCallee]

end Shift

/-- The names bound in two texts that a semicolon separates are those of both texts. -/
theorem names_parse_append_statement (first second : String) :
    names (SyntaxTree.parse (first ++ "\n;\n" ++ second)).root =
      names (SyntaxTree.parse first).root ++ names (SyntaxTree.parse second).root := by
  simp only [names, Node.descendantsOfKind, List.filter_filter, List.filterMap_filter]
  rw [SyntaxTree.descendants_parse_append_statement, List.filterMap_append,
    List.filterMap_cons_none (by simp), List.filterMap_map]
  simp only [Function.comp_def, Node.kind_shift, hasBindingCallee_shift, boundName?_shift]

end SetScript.Binding
