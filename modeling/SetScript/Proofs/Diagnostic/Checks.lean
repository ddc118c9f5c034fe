import SetScript.Proofs.Diagnostic
import SetScript.Proofs.Sorting
import SetScript.Proofs.Tree.Extent

/-!
# Checks

What is reported about a document is found by checks that look at one node at a time: one for
variables that are read, one for tokens that fit nowhere, and one for each kind of list that
can be left open.  A check finds a problem and a part of the document, and knows neither the
text around the node nor the names that are bound.

Positions come in when what was found is reported, and bound names when the reports are
sorted: then the reports on variables that are bound are left out.
-/

namespace SetScript.Diagnostic

open Text Binding

/-- A problem and the part of the document that it concerns. -/
structure Finding where
  span : Span
  problem : Problem

/-- The report on a finding in a document. -/
def Finding.report (content : List Char) (finding : Finding) : Diagnostic :=
  ⟨.ofSpan content finding.span, finding.problem⟩

/-- Finds the variables that are read. -/
def reading (node : Node) : Option Finding :=
  if calleeName? node = some readingCallee then
    (firstString? node).bind fun literal =>
      literal.literal?.map fun name => ⟨literal.span, .unresolved name⟩
  else
    none

/-- Finds the tokens that fit nowhere. -/
def stray (node : Node) : Option Finding :=
  if node.kind = .error then
    node.literal?.map fun text => ⟨node.span, .unexpected text⟩
  else
    none

/-- Finds the ends of the lists of one kind that have no closing parenthesis. -/
def unfinished (kind : Kind) (node : Node) : Option Finding :=
  if node.kind = kind ∧ isClosed node = false then
    some ⟨⟨node.span.stop, node.span.stop⟩, .unclosed⟩
  else
    none

/-- The checks that are switched on, in the order in which they are made. -/
def checks (switches : Switches) : List (Node → Option Finding) :=
  (if switches.unresolvedVariables then [reading] else []) ++
    if switches.syntaxErrors then [stray, unfinished .arguments, unfinished .parenthesized] else []

/-- The reports on what a check finds in a document. -/
def reportsOf (source : String) (check : Node → Option Finding) : List Diagnostic :=
  ((SyntaxTree.parse source).root.descendants.filterMap check).map (Finding.report source.toList)

/-- All reports on a document, whichever names are bound. -/
def reports (source : String) (switches : Switches) : List Diagnostic :=
  (checks switches).flatMap (reportsOf source)

/-- Whether bound names settle a report: it says that one of them is not bound. -/
def resolvedBy (bound : List String) (diagnostic : Diagnostic) : Bool :=
  match diagnostic.problem with
  | .unresolved name => bound.contains name
  | .unexpected _ => false
  | .unclosed => false

/-! ## Order -/

theorem orders_le : Sorting.Orders le where
  trans first second third := by
    rw [le, le, le, Position.le_iff_toNat, Position.le_iff_toNat, Position.le_iff_toNat]
    omega
  total first second := by
    rw [Bool.or_eq_true, le, le, Position.le_iff_toNat, Position.le_iff_toNat]
    omega

/-! ## What the families report -/

theorem exists_name_of_mem_unresolved {tree : SyntaxTree} {diagnostic : Diagnostic}
    (member : diagnostic ∈ unresolved tree) : ∃ name, diagnostic.problem = .unresolved name := by
  rcases List.mem_filterMap.mp member with ⟨literal, -, found⟩
  rcases Option.map_eq_some_iff.mp found with ⟨name, -, rfl⟩
  exact ⟨name, rfl⟩

theorem exists_text_of_mem_unexpected {tree : SyntaxTree} {diagnostic : Diagnostic}
    (member : diagnostic ∈ unexpected tree) : ∃ text, diagnostic.problem = .unexpected text := by
  rcases List.mem_map.mp member with ⟨node, -, rfl⟩
  exact ⟨tree.text node, rfl⟩

theorem problem_of_mem_unclosed {tree : SyntaxTree} {diagnostic : Diagnostic}
    (member : diagnostic ∈ unclosed tree) : diagnostic.problem = .unclosed := by
  rcases List.mem_map.mp member with ⟨list, -, rfl⟩
  rfl

/-! ## The checks together -/

variable {source : String}

/-- Only reports on variables that are read can be settled. -/
theorem filter_resolvedBy_eq_self {bound : List String} {diagnostics : List Diagnostic}
    (errors : ∀ diagnostic ∈ diagnostics, diagnostic.problem.severity = .error) :
    diagnostics.filter (!resolvedBy bound ·) = diagnostics := by
  rw [List.filter_eq_self]
  intro diagnostic member
  have error := errors diagnostic member
  rw [resolvedBy]
  cases problem : diagnostic.problem with
  | unresolved name =>
      rw [problem] at error
      cases error
  | unexpected text => rfl
  | unclosed => rfl

/-- What is found to be read are the literals that are read. -/
theorem filterMap_reading (root : Node) :
    root.descendants.filterMap reading = (reads root).filterMap fun literal =>
      literal.literal?.map fun name => ⟨literal.span, .unresolved name⟩ := by
  rw [reads, Node.descendantsOfKind, List.filter_filter, List.filterMap_filterMap,
    List.filterMap_filter]
  apply List.filterMap_congr
  intro node _
  by_cases callee : calleeName? node = some readingCallee
  · simp [reading, callee, kind_of_calleeName?_eq_some callee]
  · simp [reading, callee]

/-- The reports on variables that are read can be told from the tokens. -/
theorem reportsOf_reading (source : String) :
    reportsOf source reading = (readTokens (Token.scan source.toList)).map fun token =>
      ⟨tokenRange source.toList token, .unresolved token.text⟩ := by
  rw [reportsOf, filterMap_reading, reads_parse, List.filterMap_map, List.map_filterMap,
    ← List.filterMap_eq_map]
  rfl

/-- Warnings are the reports on variables that are read and that no name settles. -/
theorem unresolved_eq_filter (source : String) :
    let tree := SyntaxTree.parse source
    unresolved tree = (reportsOf source reading).filter (!resolvedBy (names tree.root) ·) := by
  intro tree
  rw [unresolved_parse, reportsOf_reading, List.filter_map]
  rfl

/-- Unexpected tokens are the reports on stray tokens. -/
theorem unexpected_eq (source : String) :
    unexpected (SyntaxTree.parse source) = reportsOf source stray := by
  rw [unexpected, SyntaxTree.errors, Node.descendantsOfKind, reportsOf, List.map_filterMap,
    ← List.filterMap_eq_map, List.filterMap_filter]
  apply List.filterMap_congr
  intro node member
  by_cases error : node.kind = .error
  · cases SyntaxTree.formed_of_mem_descendants member with
    | leaf fits =>
        rw [stray, if_pos error, if_pos (beq_iff_eq.mpr error), Function.comp_apply,
          SyntaxTree.text_leaf member]
        rfl
    | parenthesized | arguments | call => cases error
  · rw [stray, if_neg error, if_neg (by rwa [beq_iff_eq])]
    rfl

/-- The unclosed lists of one kind are the reports on unfinished ones. -/
theorem map_filter_not_isClosed (source : String) (kind : Kind) :
    let tree := SyntaxTree.parse source
    ((tree.root.descendantsOfKind kind).filter (!isClosed ·)).map (fun list =>
        (⟨.caret (.ofPoint tree.content list.span.stop.point), .unclosed⟩ : Diagnostic)) =
      reportsOf source (unfinished kind) := by
  intro tree
  rw [Node.descendantsOfKind, reportsOf, List.map_filterMap, ← List.filterMap_eq_map,
    List.filter_filter, List.filterMap_filter]
  apply List.filterMap_congr
  intro node member
  by_cases left : node.kind = kind ∧ isClosed node = false
  · rw [unfinished, if_pos left, if_pos (by simp [left])]
    rfl
  · rw [unfinished, if_neg left, if_neg (by simpa [and_comm] using left)]
    rfl

/-- Unclosed lists are the reports on unfinished argument lists and parenthesized lists. -/
theorem unclosed_eq (source : String) :
    unclosed (SyntaxTree.parse source) =
      reportsOf source (unfinished .arguments) ++ reportsOf source (unfinished .parenthesized) := by
  rw [unclosed, lists, List.filter_append, List.map_append, map_filter_not_isClosed,
    map_filter_not_isClosed]

/-- Diagnostics are the sorted reports that no bound name settles. -/
theorem collect_parse (source : String) {switches : Switches} (enabled : switches.enabled = true) :
    let tree := SyntaxTree.parse source
    collect tree switches =
      ((reports source switches).mergeSort le).filter (!resolvedBy (names tree.root) ·) := by
  intro tree
  have faults : (if switches.syntaxErrors then
        [stray, unfinished .arguments, unfinished .parenthesized] else []).flatMap
          (reportsOf source) =
      if switches.syntaxErrors then unexpected tree ++ unclosed tree else [] := by
    split
    · rw [unexpected_eq, unclosed_eq]
      simp
    · rfl
  have warnings : (if switches.unresolvedVariables then unresolved tree else []) =
      ((if switches.unresolvedVariables then [reading] else []).flatMap (reportsOf source)).filter
        (!resolvedBy (names tree.root) ·) := by
    split
    · rw [List.flatMap_singleton, unresolved_eq_filter]
    · rfl
  rw [Sorting.filter_mergeSort orders_le, reports, checks, List.flatMap_append, faults,
    List.filter_append, ← warnings, filter_resolvedBy_eq_self fun _ => severity_of_mem_errors,
    collect, if_pos enabled]

end SetScript.Diagnostic
