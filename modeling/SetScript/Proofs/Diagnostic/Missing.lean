import SetScript.Proofs.Diagnostic.Checks
import SetScript.Proofs.Grammar.Errors
import SetScript.Proofs.Tree.Pending
import Mathlib.Data.List.Sort

/-!
# Missing parentheses

An error for a missing parenthesis is reported for each list that is left open, where the list
ends.  The lists are found kind by kind in a tree, but the errors can be told from the tokens
alone: a statement has as many of them as its parentheses leave lists open, all of them at the end
of its last token, and the errors of the statements come in the order of the statements.
-/

namespace SetScript

open Text Token

/-- The character that the message of a problem starts with. -/
def Problem.initial : Problem → Char
  | unresolved _ => 'N'
  | unexpected _ => 'U'
  | unclosed => 'M'

theorem Problem.head?_message (problem : Problem) :
    problem.message.toList.head? = some problem.initial := by
  have start {words : String} {c : Char} (isFirst : words.toList.head? = some c) (rest : String) :
      (words ++ rest).toList.head? = some c := by
    rw [String.toList_append, List.head?_append, isFirst, Option.some_or]
  cases problem with
  | unresolved name => exact start rfl name
  | unexpected text => exact start rfl text
  | unclosed => rfl

/-- Only unclosed lists are reported with this message. -/
theorem Problem.message_eq_iff {problem : Problem} :
    problem.message = "Missing closing parenthesis" ↔ problem = .unclosed := by
  constructor
  · intro same
    have initial : problem.initial = 'M' := by
      rw [← Option.some_inj, ← problem.head?_message, same]
      rfl
    cases problem with
    | unclosed => rfl
    | unresolved name | unexpected text => exact absurd initial (by rw [Problem.initial]; decide)
  · rintro rfl
    rfl

namespace Diagnostic

open Forest Node

/-- Whether a diagnostic says that a parenthesis is missing. -/
def isMissing (diagnostic : Diagnostic) : Bool :=
  diagnostic.problem.message == "Missing closing parenthesis"

/-- The error at the end of a list. -/
def missingAt (content : List Char) (stop : Point) : Diagnostic :=
  ⟨.caret (.ofPoint content stop), .unclosed⟩

/-- The errors of a statement: one for each list that it leaves open, at the end of its last
token. -/
def missing (content : List Char) (statement : List Token) : List Diagnostic :=
  statement.getLast?.toList.flatMap fun last =>
    List.replicate (openAfter 0 statement) (missingAt content last.span.stop.point)

/-- The errors at the ends of the lists that a statement leaves open. -/
theorem map_pending_ofTokens (content : List Char) {statement : List Token}
    (single : IsStatement statement) :
    (pending (ofTokens statement)).map (fun list => missingAt content list.span.stop.point) =
      missing content statement := by
  rw [missing, ← length_pending_ofTokens single]
  cases isLast : statement.getLast? with
  | none =>
      have nothing : pending (ofTokens statement) = [] := by
        rw [List.eq_nil_iff_forall_not_mem]
        intro list isPending
        rcases exists_stop_eq_of_mem_pending single isPending with ⟨last, found, -⟩
        cases isLast.symm.trans found
      rw [nothing]
      rfl
  | some last =>
      rw [Option.toList_some, List.flatMap_singleton, List.eq_replicate_iff]
      refine ⟨List.length_map _, ?_⟩
      intro diagnostic member
      rcases List.mem_map.mp member with ⟨list, isPending, rfl⟩
      rcases exists_stop_eq_of_mem_pending single isPending with ⟨other, found, stop⟩
      cases isLast.symm.trans found
      rw [stop]

/-- The lists of one kind that a document leaves open. -/
theorem filter_not_isClosed {source : String} {kind : Kind} (isList : kind.isList = true) :
    ((SyntaxTree.parse source).root.descendantsOfKind kind).filter (!isClosed ·) =
      (pending (SyntaxTree.parse source).root.children).filter (·.kind == kind) := by
  rw [descendantsOfKind, pending, ← descendants, List.filter_filter, List.filter_filter]
  apply List.filter_congr
  intro node member
  by_cases same : node.kind = kind
  · have someList : node.kind.enclosure? ≠ none := by
      rw [same, ← Option.isSome_iff_ne_none]
      exact isList
    have closed := isClosed_iff member someList
    rw [Bool.eq_iff_iff]
    simp [same, isList, ← closed]
  · rw [beq_false_of_ne same, Bool.and_false, Bool.false_and]

/-- The errors of a document are those at the ends of the lists that it leaves open. -/
theorem unclosed_perm (source : String) :
    (unclosed (SyntaxTree.parse source)).Perm
      ((pending (SyntaxTree.parse source).root.children).map fun list =>
        missingAt source.toList list.span.stop.point) := by
  rw [unclosed, lists, List.filter_append, filter_not_isClosed rfl, filter_not_isClosed rfl]
  apply List.Perm.map
  -- A list that has no arguments is parenthesized.
  have others :
      (pending (SyntaxTree.parse source).root.children).filter (·.kind == .parenthesized) =
        (pending (SyntaxTree.parse source).root.children).filter (!·.kind == .arguments) := by
    apply List.filter_congr
    intro node member
    rw [pending, List.mem_filter, decide_eq_true_eq] at member
    have isList := member.2.1
    cases kind : node.kind <;> rw [kind] at isList <;> cases isList <;> rfl
  rw [others]
  exact List.filter_append_perm _ _

/-- The errors for missing parentheses are the sorted errors of unclosed lists. -/
theorem filter_isMissing_collect {tree : SyntaxTree} {switches : Switches}
    (enabled : switches.enabled = true) (syntaxOn : switches.syntaxErrors = true) :
    (collect tree switches).filter isMissing = (unclosed tree).mergeSort le := by
  have none {diagnostics : List Diagnostic}
      (others : ∀ diagnostic ∈ diagnostics, diagnostic.problem ≠ .unclosed) :
      diagnostics.filter isMissing = [] := by
    rw [List.filter_eq_nil_iff]
    intro diagnostic member
    rw [isMissing, beq_iff_eq, Problem.message_eq_iff]
    exact others diagnostic member
  have warnings : (if switches.unresolvedVariables then unresolved tree else []).filter isMissing =
      [] := by
    apply none
    intro diagnostic member
    split at member
    · rcases exists_name_of_mem_unresolved member with ⟨name, problem⟩
      rw [problem]
      exact Problem.noConfusion
    · cases member
  have unexpecteds : (unexpected tree).filter isMissing = [] := by
    apply none
    intro diagnostic member
    rcases exists_text_of_mem_unexpected member with ⟨text, problem⟩
    rw [problem]
    exact Problem.noConfusion
  have all : (unclosed tree).filter isMissing = unclosed tree := by
    rw [List.filter_eq_self]
    intro diagnostic member
    rw [isMissing, problem_of_mem_unclosed member]
    rfl
  rw [collect, if_pos enabled, if_pos syntaxOn, Sorting.filter_mergeSort orders_le,
    List.filter_append, List.filter_append, warnings, unexpecteds, all, List.nil_append,
    List.nil_append]

/-- The errors of the statements come in order. -/
theorem pairwise_missing {source : List Char} (fits : utf8Length source < UInt32.size) :
    ((statements (scan source)).flatMap (missing source)).Pairwise fun first second =>
      le first second = true := by
  have ordered := (pairwise_stopPosition fits).sublist
    (List.filter_sublist (p := (·.kind != .semicolon)))
  rw [← flatten_statements, List.pairwise_flatten] at ordered
  have place {statement : List Token} {diagnostic : Diagnostic}
      (member : diagnostic ∈ missing source statement) :
      ∃ last ∈ statement, diagnostic = missingAt source last.span.stop.point := by
    rcases List.mem_flatMap.mp member with ⟨last, isLast, repeated⟩
    rw [Option.mem_toList] at isLast
    exact ⟨last, List.mem_of_getLast? isLast, List.eq_of_mem_replicate repeated⟩
  rw [List.pairwise_flatMap]
  constructor
  · intro statement _
    rw [missing]
    cases statement.getLast? with
    | none => exact List.Pairwise.nil
    | some last =>
        rw [Option.toList_some, List.flatMap_singleton, List.pairwise_replicate]
        exact Or.inr (Position.le_refl _)
  · apply ordered.2.imp
    intro first second apart earlier isEarlier later isLater
    rcases place isEarlier with ⟨last, isLast, rfl⟩
    rcases place isLater with ⟨final, isFinal, rfl⟩
    exact Position.le_of_lt (apart last isLast final isFinal)

/-- Errors that come before each other are the same, as they differ in their places alone. -/
theorem missingAt_antisymm {content : List Char} {first second : Point}
    (before : le (missingAt content first) (missingAt content second) = true)
    (after : le (missingAt content second) (missingAt content first) = true) :
    missingAt content first = missingAt content second := by
  have same : Position.ofPoint content first = Position.ofPoint content second :=
    Position.le_antisymm before after
  rw [missingAt, missingAt, same]

/-- A statement has one error for each list that its parentheses leave open, all of them at the end
of its last token, and there are no other errors for missing parentheses. -/
theorem collect_missing_eq {source : String} (fits : utf8Length source.toList < UInt32.size)
    {switches : Switches} (enabled : switches.enabled = true)
    (syntaxOn : switches.syntaxErrors = true) :
    (collect (SyntaxTree.parse source) switches).filter isMissing =
      (statements (scan source.toList)).flatMap (missing source.toList) := by
  have byStatement : (pending (SyntaxTree.parse source).root.children).map
      (fun list => missingAt source.toList list.span.stop.point) =
        (statements (scan source.toList)).flatMap (missing source.toList) := by
    have root : (SyntaxTree.parse source).root.children = ofTokens (scan source.toList) := rfl
    rw [root, pending_ofTokens, List.map_flatMap]
    apply List.flatMap_congr
    intro statement member
    exact map_pending_ofTokens source.toList (isStatement_of_mem_statements member)
  have sorted : ((unclosed (SyntaxTree.parse source)).mergeSort le).Pairwise fun first second =>
      le first second = true :=
    List.pairwise_mergeSort orders_le.trans orders_le.total _
  have same := (List.mergeSort_perm (unclosed (SyntaxTree.parse source)) le).trans
    (unclosed_perm source)
  rw [filter_isMissing_collect enabled syntaxOn]
  -- Both sides hold the same errors, and there is only one order for them.
  apply List.Perm.eq_of_pairwise _ sorted (pairwise_missing fits)
  · rw [← byStatement]
    exact same
  · intro first second isFirst isSecond before after
    rw [← byStatement] at isSecond
    rcases List.mem_map.mp (same.mem_iff.mp isFirst) with ⟨list, -, rfl⟩
    rcases List.mem_map.mp isSecond with ⟨other, -, rfl⟩
    exact missingAt_antisymm before after

/-- Two statements leave two lists open each; the stray parenthesis of the second closes none. -/
theorem collect_missing_eq_two_statements :
    let source := "f(('😀\n;x)\n(("
    (collect (SyntaxTree.parse source) {}).filter isMissing =
      [⟨.caret ⟨0, 6⟩, .unclosed⟩, ⟨.caret ⟨0, 6⟩, .unclosed⟩,
        ⟨.caret ⟨2, 2⟩, .unclosed⟩, ⟨.caret ⟨2, 2⟩, .unclosed⟩] := by
  intro source
  have fits : utf8Length source.toList < UInt32.size := by decide +kernel
  rw [collect_missing_eq fits rfl rfl]
  decide +kernel

end Diagnostic

end SetScript
