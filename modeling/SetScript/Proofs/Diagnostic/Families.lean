import SetScript.Proofs.Diagnostic.Missing
import SetScript.Proofs.Tree.Coordinates

/-!
# Families of diagnostics

Warnings and errors are found one family after the other, and then sorted together.  Sorting keeps
the order inside a family, so a family is reported in the same way whether or not the other one is
switched on.

The range of a warning, or of an error for a token, leads back to the very text that the message
ends with: both ends name points of one line, and the text lies between them.
-/

namespace SetScript

open Text

/-- Both ends of a range name points of one line, and a text lies between them. -/
structure Text.Range.Quotes (content : List Char) (range : Range) (text : String) : Prop where
  sameRow : (range.start.toPoint content).row = (range.stop.toPoint content).row
  between : ∃ line, line? (range.start.toPoint content).row content = some line ∧
    slice? line (range.start.toPoint content).column (range.stop.toPoint content).column =
      some text.toList

namespace Diagnostic

/-- Whether a diagnostic says that a token was not expected. -/
def isUnexpected (diagnostic : Diagnostic) : Bool :=
  "Unexpected ".toList.isPrefixOf diagnostic.problem.message.toList

theorem isUnexpected_iff {diagnostic : Diagnostic} :
    isUnexpected diagnostic = true ↔ ∃ text, diagnostic.problem = .unexpected text := by
  rw [isUnexpected, List.isPrefixOf_iff_prefix]
  constructor
  · rintro ⟨rest, same⟩
    have first : "Unexpected ".toList.head? = some 'U' := rfl
    have initial : diagnostic.problem.initial = 'U' := by
      rw [← Option.some_inj, ← Problem.head?_message, ← same, List.head?_append, first,
        Option.some_or]
    cases problem : diagnostic.problem with
    | unexpected text => exact ⟨text, rfl⟩
    | unresolved name | unclosed =>
        rw [problem] at initial
        exact absurd initial (by rw [Problem.initial]; decide)
  · rintro ⟨text, problem⟩
    have words : diagnostic.problem.message.toList = "Unexpected ".toList ++ text.toList :=
      (congrArg (·.message.toList) problem).trans String.toList_append
    exact ⟨text.toList, words.symm⟩

/-! ## One family at a time -/

/-- The switches with all families off that have another severity. -/
def only (severity : Severity) (switches : Switches) : Switches :=
  match severity with
  | .warning => { switches with syntaxErrors := false }
  | .error => { switches with unresolvedVariables := false }

/-- Variables that are not bound are warned of. -/
theorem severity_of_mem_warnings {tree : SyntaxTree} {switches : Switches}
    {diagnostic : Diagnostic}
    (member : diagnostic ∈ if switches.unresolvedVariables then unresolved tree else []) :
    diagnostic.problem.severity = .warning := by
  split at member
  · rcases exists_name_of_mem_unresolved member with ⟨name, problem⟩
    rw [problem]
    rfl
  · cases member

/-- A family is kept or left out as a whole. -/
theorem filter_severity {diagnostics : List Diagnostic} {severity : Severity}
    (family : ∀ diagnostic ∈ diagnostics, diagnostic.problem.severity = severity)
    (kept : Severity) :
    diagnostics.filter (·.problem.severity == kept) =
      if severity = kept then diagnostics else [] := by
  by_cases same : severity = kept
  · rw [if_pos same, List.filter_eq_self]
    intro diagnostic member
    rw [family diagnostic member, same, beq_self_eq_true]
  · rw [if_neg same, List.filter_eq_nil_iff]
    intro diagnostic member
    rw [family diagnostic member, beq_iff_eq]
    exact same

/-- A family is reported in the same way without the other one. -/
theorem filter_severity_collect (tree : SyntaxTree) (switches : Switches) (severity : Severity) :
    (collect tree switches).filter (·.problem.severity == severity) =
      collect tree (only severity switches) := by
  have enabled : (only severity switches).enabled = switches.enabled := by
    cases severity <;> rfl
  rw [collect, collect, enabled]
  split
  · rw [Sorting.filter_mergeSort orders_le, List.filter_append,
      filter_severity fun _ => severity_of_mem_warnings,
      filter_severity fun _ => severity_of_mem_errors]
    cases severity <;> rfl
  · rfl

/-- The errors for tokens are the sorted ones for tokens that fit nowhere. -/
theorem filter_isUnexpected_collect (tree : SyntaxTree) :
    (collect tree {}).filter isUnexpected = (unexpected tree).mergeSort le := by
  have noWarnings : (unresolved tree).filter isUnexpected = [] := by
    rw [List.filter_eq_nil_iff]
    intro diagnostic member
    rcases exists_name_of_mem_unresolved member with ⟨name, problem⟩
    rw [isUnexpected_iff, problem]
    exact nofun
  have tokens : (unexpected tree).filter isUnexpected = unexpected tree := by
    rw [List.filter_eq_self]
    intro diagnostic member
    exact isUnexpected_iff.mpr (exists_text_of_mem_unexpected member)
  have noLists : (unclosed tree).filter isUnexpected = [] := by
    rw [List.filter_eq_nil_iff]
    intro diagnostic member
    rw [isUnexpected_iff, problem_of_mem_unclosed member]
    exact nofun
  have all : collect tree {} =
      (unresolved tree ++ (unexpected tree ++ unclosed tree)).mergeSort le :=
    rfl
  rw [all, Sorting.filter_mergeSort orders_le, List.filter_append, List.filter_append, noWarnings,
    tokens, noLists, List.append_nil, List.nil_append]

/-! ## Tokens that fit nowhere -/

/-- The tokens of a document that fit nowhere. -/
def strayTokens (source : String) : List Token :=
  (SyntaxTree.parse source).errors.filterMap Node.token?

/-- The error leaves of a document hold the tokens that fit nowhere. -/
theorem errors_parse (source : String) :
    (SyntaxTree.parse source).errors = (strayTokens source).map (.leaf .error) := by
  have errorLeaf : ∀ node ∈ (SyntaxTree.parse source).errors,
      node.token?.map (.leaf .error) = some node := by
    intro node member
    rcases List.mem_filter.mp member with ⟨below, isError⟩
    cases SyntaxTree.formed_of_mem_descendants below with
    | leaf fits =>
        cases beq_iff_eq.mp isError
        rfl
    | parenthesized | arguments | call => cases isError
  rw [strayTokens, List.map_filterMap, List.filterMap_congr errorLeaf, List.filterMap_some]

/-- They are tokens of the document, in order. -/
theorem strayTokens_sublist (source : String) :
    (strayTokens source).Sublist (Token.scan source.toList) := by
  have leaves := Forest.flatMap_leaves_ofTokens (Token.scan source.toList)
  rw [← Node.filterMap_token?_traverse, ← SyntaxTree.descendants_root_parse] at leaves
  rw [← leaves]
  exact List.filter_sublist.filterMap _

/-- The errors for tokens can be told from the tokens. -/
theorem unexpected_parse (source : String) :
    unexpected (SyntaxTree.parse source) = (strayTokens source).map fun token =>
      ⟨tokenRange source.toList token, .unexpected token.text⟩ := by
  rw [unexpected, errors_parse, List.map_map]
  apply List.map_congr_left
  intro token member
  have isError : .leaf .error token ∈ (SyntaxTree.parse source).errors := by
    rw [errors_parse]
    exact List.mem_map_of_mem member
  rw [Function.comp_apply, SyntaxTree.text_leaf (List.mem_of_mem_filter isError)]
  rfl

variable {source : String}

theorem pairwise_strayTokens (fits : utf8Length source.toList < UInt32.size) :
    (strayTokens source).Pairwise fun first second =>
      first.startPosition source.toList < second.startPosition source.toList :=
  (Token.pairwise_startPosition fits).sublist (strayTokens_sublist source)

/-- The errors for tokens come in the order of the tokens. -/
theorem filter_isUnexpected_collect_parse (fits : utf8Length source.toList < UInt32.size) :
    (collect (SyntaxTree.parse source) {}).filter isUnexpected =
      unexpected (SyntaxTree.parse source) := by
  rw [filter_isUnexpected_collect]
  apply List.mergeSort_of_pairwise
  rw [unexpected_parse, List.pairwise_map]
  exact (pairwise_strayTokens fits).imp Position.le_of_lt

/-- The number of errors for tokens at a range. -/
def unexpectedCount (tree : SyntaxTree) (range : Range) : Nat :=
  (collect tree {}).countP fun diagnostic => isUnexpected diagnostic && diagnostic.range == range

/-- A token that fits nowhere has one error. -/
theorem unexpectedCount_tokenRange (fits : utf8Length source.toList < UInt32.size) {token : Token}
    (member : token ∈ strayTokens source) :
    unexpectedCount (SyntaxTree.parse source) (tokenRange source.toList token) = 1 := by
  have ranges := nodup_map_tokenRange (pairwise_strayTokens fits)
  rw [unexpectedCount]
  simp only [Bool.and_comm (isUnexpected _)]
  rw [← List.countP_filter, filter_isUnexpected_collect_parse fits, unexpected_parse,
    List.countP_map, ← List.count_eq_one_of_mem ranges (List.mem_map_of_mem member), List.count,
    List.countP_map]
  rfl

/-! ## Texts and ranges -/

/-- The range of a token quotes its text. -/
theorem quotes_tokenRange (fits : utf8Length source.toList < UInt32.size) {token : Token}
    (member : token ∈ Token.scan source.toList) :
    (tokenRange source.toList token).Quotes source.toList token.text := by
  rcases Token.stands_of_mem_scan member with ⟨before, after, whole, stands⟩
  have delimits : token.span.Delimits source.toList token.text.toList :=
    stands.delimits whole
  have start : (token.startPosition source.toList).toPoint source.toList = token.span.start.point :=
    delimits.isIn_start.toPoint_ofPoint fits
  have stop : (token.stopPosition source.toList).toPoint source.toList = token.span.stop.point :=
    delimits.isIn_stop.toPoint_ofPoint fits
  have line := stands.exists_line?
  rw [← whole, ← start, ← stop] at line
  exact ⟨line.1, line.2⟩

/-- The tokens that name the variables read in a document are tokens of the document. -/
theorem mem_scan_of_mem_readTokens {token : Token}
    (member : token ∈ readTokens (Token.scan source.toList)) :
    token ∈ Token.scan source.toList := by
  have read : .leaf .string token ∈ reads (SyntaxTree.parse source).root := by
    rw [reads_parse]
    exact List.mem_map_of_mem member
  rcases mem_reads_iff.mp read with ⟨call, below, isRead⟩
  rcases isRead.exists_token below with ⟨other, -, scanned, -, same⟩
  cases same
  exact scanned

/-- What can be relied on about the diagnostics of a document with all families on. -/
structure Faithful (tree : SyntaxTree) : Prop where
  /-- They come in the order of their starts. -/
  sorted : (collect tree {}).Pairwise fun first second =>
    first.range.start.le second.range.start = true
  /-- The warnings are those that are reported alone. -/
  warnings : (collect tree {}).filter (·.problem.severity == .warning) =
    collect tree { syntaxErrors := false }
  /-- The errors are those that are reported alone. -/
  errors : (collect tree {}).filter (·.problem.severity == .error) =
    collect tree { unresolvedVariables := false }
  /-- The errors for tokens are those of the error leaves, in order. -/
  unexpected : (collect tree {}).filter isUnexpected =
    tree.errors.map fun leaf => ⟨nodeRange tree leaf, .unexpected (tree.text leaf)⟩
  /-- Each error leaf has one of them. -/
  once : ∀ leaf ∈ tree.root.descendants, leaf.kind = .error →
    unexpectedCount tree (nodeRange tree leaf) = 1
  /-- The range of a warning quotes the literal that its message ends with. -/
  quotesLiteral : ∀ diagnostic ∈ collect tree {}, diagnostic.problem.severity = .warning →
    ∃ literal, diagnostic.problem.message =
        "No `set` or `setr` binding found for variable " ++ literal ∧
      diagnostic.range.Quotes tree.content literal
  /-- The range of an error for a token quotes the token that its message ends with. -/
  quotesToken : ∀ diagnostic ∈ collect tree {}, isUnexpected diagnostic = true →
    ∃ token, diagnostic.problem.message = "Unexpected " ++ token ∧
      diagnostic.range.Quotes tree.content token

/-- The diagnostics of every document whose bytes can be counted in 32 bits are faithful. -/
theorem faithful_parse (fits : utf8Length source.toList < UInt32.size) :
    Faithful (SyntaxTree.parse source) where
  sorted := List.pairwise_mergeSort orders_le.trans orders_le.total _
  warnings := filter_severity_collect _ {} .warning
  errors := filter_severity_collect _ {} .error
  unexpected := filter_isUnexpected_collect_parse fits
  once leaf member isError := by
    have held : leaf ∈ (SyntaxTree.parse source).errors :=
      List.mem_filter.mpr ⟨member, beq_iff_eq.mpr isError⟩
    rw [errors_parse] at held
    rcases List.mem_map.mp held with ⟨token, isStray, rfl⟩
    exact unexpectedCount_tokenRange fits isStray
  quotesLiteral diagnostic member warning := by
    have unbound := mem_unresolved_of_warning member warning
    rw [unresolved_parse] at unbound
    rcases List.mem_map.mp unbound with ⟨token, isRead, rfl⟩
    exact ⟨token.text, rfl, quotes_tokenRange fits
      (mem_scan_of_mem_readTokens (List.mem_of_mem_filter isRead))⟩
  quotesToken diagnostic member isToken := by
    have found : diagnostic ∈ (collect (SyntaxTree.parse source) {}).filter isUnexpected :=
      List.mem_filter.mpr ⟨member, isToken⟩
    rw [filter_isUnexpected_collect_parse fits, unexpected_parse] at found
    rcases List.mem_map.mp found with ⟨token, isStray, rfl⟩
    exact ⟨token.text, rfl, quotes_tokenRange fits ((strayTokens_sublist source).subset isStray)⟩

/-- A literal and two stray tokens stand on one line with characters of two and four bytes. -/
theorem faithful_parse_line :
    let tree := SyntaxTree.parse "😀 get('é') ,"
    Faithful tree ∧ tree.errors.map tree.text = ["😀", ","] ∧
      tree.errors.map (nodeRange tree) = [⟨⟨0, 0⟩, ⟨0, 2⟩⟩, ⟨⟨0, 12⟩, ⟨0, 13⟩⟩] ∧
        (unresolved tree).map (·.range) = [⟨⟨0, 7⟩, ⟨0, 10⟩⟩] :=
  ⟨faithful_parse (by decide +kernel), by decide +kernel, by decide +kernel, by decide +kernel⟩

end Diagnostic

end SetScript
