import SetScript.Proofs.Diagnostic
import SetScript.Proofs.Grammar.Derivation

/-!
# Errors and grammars

A document has no syntax errors exactly when its tokens are a script by the loose rules.
The strict rules ask for more: that parentheses hold one expression and that commas
separate arguments.  Nothing reports a list that breaks them, so a document without
errors is a script by the strict rules only if each of its lists happens to keep them.
-/

namespace SetScript

open Grammar

/-! ## Closed lists -/

namespace Diagnostic

open Forest Node

variable {source : String} {node : Node}

/-- The test for a closing parenthesis finds the closing parentheses. -/
theorem isClose_iff (member : node ∈ (SyntaxTree.parse source).root.descendants) :
    (!node.isNamed && node.literal? == some ")") = true ↔ node.IsClose := by
  rw [Bool.and_eq_true, Bool.not_eq_true', beq_iff_eq]
  constructor
  · rintro ⟨unnamed, text⟩
    cases SyntaxTree.formed_of_mem_descendants member with
    | @leaf kind token fits =>
        have isClose := (Token.text_eq_closeParen_iff (SyntaxTree.mem_scan_of_leaf_mem member)).mp
          (Option.some.inj text)
        cases kind <;> cases unnamed
        exact ⟨token, rfl, isClose⟩
    | parenthesized | arguments | call => cases text
  · rintro ⟨token, rfl, isClose⟩
    have text := (Token.text_eq_closeParen_iff (SyntaxTree.mem_scan_of_leaf_mem member)).mpr isClose
    exact ⟨rfl, congrArg some text⟩

/-- The test for closed lists finds the lists that end with a closing parenthesis. -/
theorem isClosed_iff (member : node ∈ (SyntaxTree.parse source).root.descendants)
    (isList : node.kind.enclosure? ≠ none) : isClosed node = true ↔ Closes node.children := by
  have closing {last : Node} (isLast : last ∈ node.children.getLast?) :
      (!last.isNamed && last.literal? == some ")") = true ↔ last.IsClose := by
    apply isClose_iff
    apply traverse_children_subset member
    exact mem_traverse_of_mem (List.mem_of_getLast? isLast)
  obtain ⟨paren, body, opens, children⟩ : ∃ paren body, paren.kind = .openParen ∧
      node.children = .leaf .punctuation paren :: body := by
    cases SyntaxTree.formed_of_mem_descendants member with
    | leaf fits => exact absurd (Kind.enclosure?_of_fits fits) isList
    | parenthesized opens => exact ⟨_, _, opens, rfl⟩
    | arguments opens => exact ⟨_, _, opens, rfl⟩
    | call => exact absurd rfl isList
  rw [isClosed, Bool.and_eq_true, decide_eq_true_eq, Option.any_eq_true]
  constructor
  · rintro ⟨-, last, isLast, isClose⟩
    exact ⟨last, isLast, (closing isLast).mp isClose⟩
  · rintro ⟨last, isLast, isClose⟩
    refine ⟨?_, last, isLast, (closing isLast).mpr isClose⟩
    -- The opening parenthesis alone does not close the list.
    have notClose : ¬ (Node.leaf .punctuation paren).IsClose :=
      not_isClose_leaf (by rw [opens]; exact TokenKind.noConfusion)
    have closes : Closes node.children := ⟨last, isLast, isClose⟩
    rw [children, closes_cons_iff notClose] at closes
    obtain ⟨other, isOther, -⟩ := closes
    have some := List.length_pos_of_mem (List.mem_of_getLast? isOther)
    rw [children, List.length_cons]
    omega

/-! ## Syntax errors -/

/-- The syntax errors of a document. -/
def faults (tree : SyntaxTree) : List Diagnostic :=
  unexpected tree ++ unclosed tree

theorem mem_lists_iff {root : Node} :
    node ∈ lists root ↔ node ∈ root.descendants ∧ node.kind.enclosure? ≠ none := by
  rw [lists, List.mem_append, descendantsOfKind, descendantsOfKind, List.mem_filter,
    List.mem_filter, ← and_or_left]
  cases node.kind <;> simp [Kind.enclosure?]

theorem faults_eq_nil_iff (tree : SyntaxTree) :
    faults tree = [] ↔ (∀ node ∈ tree.root.descendants, node.kind ≠ .error) ∧
      ∀ list ∈ lists tree.root, isClosed list = true := by
  rw [faults, List.append_eq_nil_iff, unexpected, unclosed, List.map_eq_nil_iff,
    List.map_eq_nil_iff, SyntaxTree.errors, descendantsOfKind, List.filter_eq_nil_iff,
    List.filter_eq_nil_iff]
  simp

/-- A document is tidy when it has no syntax errors and its lists fit the rules. -/
theorem tidy_descendants_iff (rules : Rules) (source : String) :
    (∀ node ∈ (SyntaxTree.parse source).root.descendants, node.Tidy rules) ↔
      faults (SyntaxTree.parse source) = [] ∧
        ∀ list ∈ lists (SyntaxTree.parse source).root, list.Fits rules := by
  rw [faults_eq_nil_iff]
  constructor
  · intro tidy
    refine ⟨⟨fun node member => (tidy node member).notError, ?_⟩, ?_⟩
    · intro list listed
      obtain ⟨member, isList⟩ := mem_lists_iff.mp listed
      exact (isClosed_iff member isList).mpr ((tidy list member).closes isList)
    · intro list listed
      exact (tidy list (mem_lists_iff.mp listed).1).fits
  · rintro ⟨⟨noError, closed⟩, fits⟩ node member
    refine ⟨noError node member, ?_, ?_⟩
    · intro isList
      exact (isClosed_iff member isList).mp (closed node (mem_lists_iff.mpr ⟨member, isList⟩))
    · intro enclosure isList
      have someList : node.kind.enclosure? ≠ none := by
        rw [isList]
        exact Option.some_ne_none enclosure
      exact fits node (mem_lists_iff.mpr ⟨member, someList⟩) enclosure isList

/-- By lawful rules that are loose at the top, the scripts are the documents without syntax
errors whose lists fit the rules. -/
theorem program_iff_faults_eq_nil {rules : Rules} (lawful : rules.Lawful)
    (atTop : rules .document = loose .document) (source : String) :
    Program rules ((Token.scan source.toList).map Token.kind) ↔
      faults (SyntaxTree.parse source) = [] ∧
        ∀ list ∈ lists (SyntaxTree.parse source).root, list.Fits rules := by
  have reads := reads_read .document 0 (Token.scan source.toList)
  rw [program_iff lawful, ← tidy_descendants_iff]
  constructor
  · rintro ⟨clean, -⟩
    exact clean.tidy
  · intro tidy
    refine ⟨⟨tidy, fun inside => absurd rfl inside⟩, ?_⟩
    rw [atTop]
    exact reads.loose_items fun node member => (tidy node member).notError

/-- The scripts by the loose rules are the documents without syntax errors. -/
theorem loose_iff_faults_eq_nil (source : String) :
    Program loose ((Token.scan source.toList).map Token.kind) ↔
      faults (SyntaxTree.parse source) = [] := by
  rw [program_iff_faults_eq_nil lawful_loose rfl]
  constructor
  · exact And.left
  · intro noFaults
    refine ⟨noFaults, fun list listed => ?_⟩
    have noError := ((faults_eq_nil_iff _).mp noFaults).1
    have reads := reads_read .document 0 (Token.scan source.toList)
    exact reads.fits_loose noError list (mem_lists_iff.mp listed).1

theorem collect_eq (tree : SyntaxTree) (unresolvedVariables : Bool) :
    collect tree { unresolvedVariables := unresolvedVariables } =
      ((if unresolvedVariables then unresolved tree else []) ++ faults tree).mergeSort le :=
  rfl

/-- With all syntax errors reported, there is an error when the document has one. -/
theorem exists_error_iff (tree : SyntaxTree) (unresolvedVariables : Bool) :
    (∃ diagnostic ∈ collect tree { unresolvedVariables := unresolvedVariables },
      diagnostic.problem.severity = .error) ↔ faults tree ≠ [] := by
  rw [collect_eq]
  constructor
  · rintro ⟨diagnostic, member, isError⟩ noFaults
    rw [List.mem_mergeSort, noFaults, List.append_nil] at member
    split at member
    · obtain ⟨literal, -, found⟩ := List.mem_filterMap.mp member
      obtain ⟨name, -, rfl⟩ := Option.map_eq_some_iff.mp found
      cases isError
    · cases member
  · intro someFault
    obtain ⟨diagnostic, member⟩ := List.exists_mem_of_ne_nil _ someFault
    have reported : diagnostic ∈ if (({} : Switches).syntaxErrors) then faults tree else [] :=
      member
    exact ⟨diagnostic, List.mem_mergeSort.mpr (List.mem_append_right _ member),
      severity_of_mem_errors reported⟩

/-- Where only syntax errors are reported, nothing is reported of the scripts by the loose
rules, and of nothing else. -/
theorem collect_eq_nil_iff_loose (source : String) :
    collect (SyntaxTree.parse source) { unresolvedVariables := false } = [] ↔
      Program loose ((Token.scan source.toList).map Token.kind) := by
  rw [loose_iff_faults_eq_nil, collect_eq, if_neg Bool.false_ne_true, List.nil_append]
  constructor
  · intro nothing
    apply List.eq_nil_of_length_eq_zero
    rw [← List.length_mergeSort, nothing]
    rfl
  · intro noFaults
    rw [noFaults, List.mergeSort_nil]

/-- The scripts by the strict rules are the documents of which no error is reported and
whose lists all keep the rules. -/
theorem strict_iff_noError (source : String) (unresolvedVariables : Bool) :
    let tree := SyntaxTree.parse source
    Program strict ((Token.scan source.toList).map Token.kind) ↔
      (∀ diagnostic ∈ collect tree { unresolvedVariables := unresolvedVariables },
        diagnostic.problem.severity ≠ .error) ∧
          ∀ list ∈ lists tree.root, list.Fits strict := by
  intro tree
  have noError := not_congr (exists_error_iff tree unresolvedVariables)
  rw [not_not] at noError
  rw [program_iff_faults_eq_nil lawful_strict rfl, ← noError]
  simp [tree]

/-- Nothing reports that a comma is missing between two arguments. -/
theorem not_strict_without_comma :
    let source := "set('x' 1)"
    ¬ Program strict ((Token.scan source.toList).map Token.kind) ∧
      ∀ diagnostic ∈ collect (SyntaxTree.parse source) {},
        diagnostic.problem.severity ≠ .error := by
  intro source
  let callee : Token := ⟨.identifier, "set", ⟨⟨0, ⟨0, 0⟩⟩, ⟨3, ⟨0, 3⟩⟩⟩⟩
  let opening : Token := ⟨.openParen, "(", ⟨⟨3, ⟨0, 3⟩⟩, ⟨4, ⟨0, 4⟩⟩⟩⟩
  let name : Token := ⟨.string, "'x'", ⟨⟨4, ⟨0, 4⟩⟩, ⟨7, ⟨0, 7⟩⟩⟩⟩
  let value : Token := ⟨.number, "1", ⟨⟨8, ⟨0, 8⟩⟩, ⟨9, ⟨0, 9⟩⟩⟩⟩
  let closing : Token := ⟨.closeParen, ")", ⟨⟨9, ⟨0, 9⟩⟩, ⟨10, ⟨0, 10⟩⟩⟩⟩
  have scanned : Token.scan source.toList = [callee, opening, name, value, closing] := by
    decide +kernel
  rw [scanned]
  constructor
  · have inner : Reads .arguments 1 [name, value, closing] _ [] :=
      .leaf rfl (.leaf rfl (.close rfl Enclosure.noConfusion))
    have reads : Reads .document 0 [callee, opening, name, value, closing] _ [] :=
      .call rfl rfl (by decide) inner .done
    rw [program_iff lawful_strict, ofTokens, reads.read_eq.1, clean_call_cons_iff rfl rfl]
    rintro ⟨⟨⟨-, separated⟩, -⟩, -⟩
    cases separated
  · have inner : Items loose 255 [.expression, .expression] [.string, .number] :=
      .expression .string (.expression .number .nil)
    have derived : Program loose ((Token.scan source.toList).map Token.kind) := by
      rw [scanned]
      exact ⟨[.expression], .expression (.call inner (by simp [loose, Item.StandsIn])) .nil,
        by simp [loose, Item.StandsIn]⟩
    have noFaults := (loose_iff_faults_eq_nil source).mp derived
    intro diagnostic member isError
    exact (exists_error_iff _ true).mp ⟨diagnostic, member, isError⟩ noFaults

end Diagnostic

end SetScript
