import SetScript.Diagnostic
import SetScript.Proofs.Definition
import Mathlib.Data.List.Nodup

/-!
# Warnings and definitions

A warning says that a variable is read that no call binds, and a definition is where
a variable is bound.  The two are computed apart from each other: the names of all
rules are collected for the warnings, while the rules are tried one by one for the
literal under a caret.  They agree all the same.  A literal that is read has one
warning when there is no definition under any caret on it, and no warning when there
is a definition under every caret on it, and there is no third case.
-/

namespace SetScript

open Text

/-- A position lies in a range; the end does not. -/
def Text.Range.Holds (range : Range) (position : Position) : Prop :=
  range.start.le position = true ∧ position < range.stop

namespace Diagnostic

open Binding

/-! ## Variables that are read -/

/-- The tokens that name the variables read in a document. -/
def readTokens (tokens : List Token) : List Token :=
  ((sitesFrom 0 tokens).filter (·.callee.text == readingCallee)).map (·.literal)

/-- The variables that are read can be told from the tokens. -/
theorem reads_parse (source : String) :
    reads (SyntaxTree.parse source).root =
      (readTokens (Token.scan source.toList)).map (.leaf .string) := by
  rw [reads, Node.descendantsOfKind, List.filter_filter, List.filterMap_filter, readTokens,
    ← filterMap_site?_descendants, List.map_map, List.filter_filterMap, List.map_filterMap]
  refine List.filterMap_congr fun node member => ?_
  cases string : firstString? node with
  | none =>
      have noSite : site? node = none := by
        simp [site?, literalToken?, string]
      rw [noSite, ite_self]
      rfl
  | some literal =>
      obtain ⟨token, -, -, rfl⟩ := exists_token_of_firstString? member string
      have site : site? node = (calleeToken? node).map fun callee => ⟨callee, token⟩ := by
        rw [site?, literalToken?, string]
        cases calleeToken? node <;> rfl
      rw [calleeName?_eq]
      cases callee : calleeToken? node with
      | none => simp [site, callee]
      | some name =>
          rw [callee, Option.map_some] at site
          have isCall := kind_of_site?_eq_some site
          by_cases reading : name.text = readingCallee
          · simp [site, isCall, reading, Option.filter_some]
          · simp [site, reading, Option.filter_some]

/-- The variables that are read are read at ever later positions. -/
theorem pairwise_readTokens {source : List Char} (fits : utf8Length source < UInt32.size) :
    (readTokens (Token.scan source)).Pairwise fun first second =>
      first.startPosition source < second.startPosition source :=
  (pairwise_literal (Token.pairwise_startPosition fits) 0).sublist (List.filter_sublist.map _)

/-- A call reads the variable that a string literal names. -/
structure IsRead (call literal : Node) : Prop where
  callee : calleeName? call = some readingCallee
  argument : firstArgument? call = some literal
  string : literal.kind = .string

/-- The literals that are read are those of the reading calls. -/
theorem mem_reads_iff {root literal : Node} :
    literal ∈ reads root ↔ ∃ call ∈ root.descendants, IsRead call literal := by
  constructor
  · intro member
    obtain ⟨call, kept, found⟩ := List.mem_filterMap.mp member
    obtain ⟨isCall, callee⟩ := List.mem_filter.mp kept
    obtain ⟨argument, string⟩ := Option.filter_eq_some_iff.mp found
    exact ⟨call, List.mem_of_mem_filter isCall, beq_iff_eq.mp callee, argument,
      beq_iff_eq.mp string⟩
  · rintro ⟨call, below, callee, argument, string⟩
    have found : firstString? call = some literal :=
      Option.filter_eq_some_iff.mpr ⟨argument, beq_iff_eq.mpr string⟩
    have isCall : call ∈ root.descendantsOfKind .call :=
      List.mem_filter.mpr ⟨below, beq_iff_eq.mpr (kind_of_calleeName?_eq_some callee)⟩
    exact List.mem_filterMap.mpr
      ⟨call, List.mem_filter.mpr ⟨isCall, beq_iff_eq.mpr callee⟩, found⟩

/-! ## Warnings -/

/-- The range of a token of a document. -/
def tokenRange (source : List Char) (token : Token) : Range :=
  ⟨token.startPosition source, token.stopPosition source⟩

/-- The warnings of a document can be told from the tokens. -/
theorem unresolved_parse (source : String) :
    unresolved (SyntaxTree.parse source) =
      ((readTokens (Token.scan source.toList)).filter fun token =>
        !(names (SyntaxTree.parse source).root).contains token.text).map fun token =>
          ⟨tokenRange source.toList token, .unresolved token.text⟩ := by
  rw [unresolved, reads_parse, List.filterMap_map, ← List.filterMap_eq_map, List.filterMap_filter]
  refine List.filterMap_congr fun token _ => ?_
  have range : nodeRange (SyntaxTree.parse source) (.leaf .string token) =
      tokenRange source.toList token :=
    rfl
  by_cases bound : token.text ∈ names (SyntaxTree.parse source).root
  · simp [Node.literal?, Option.filter_some, bound]
  · simp [Node.literal?, Option.filter_some, bound, range]

/-- The problems of the syntax are errors. -/
theorem severity_of_mem_errors {tree : SyntaxTree} {switches : Switches} {diagnostic : Diagnostic}
    (member : diagnostic ∈ if switches.syntaxErrors then unexpected tree ++ unclosed tree else []) :
    diagnostic.problem.severity = .error := by
  split at member
  · rcases List.mem_append.mp member with isUnexpected | isUnclosed
    · obtain ⟨node, -, rfl⟩ := List.mem_map.mp isUnexpected
      rfl
    · obtain ⟨list, -, rfl⟩ := List.mem_map.mp isUnclosed
      rfl
  · cases member

/-- Only unresolved variables are warned of. -/
theorem mem_unresolved_of_warning {tree : SyntaxTree} {switches : Switches}
    {diagnostic : Diagnostic} (member : diagnostic ∈ collect tree switches)
    (warning : diagnostic.problem.severity = .warning) : diagnostic ∈ unresolved tree := by
  rw [collect] at member
  split at member
  · rcases List.mem_append.mp (List.mem_mergeSort.mp member) with isWarning | isError
    · split at isWarning
      · exact isWarning
      · cases isWarning
    · rw [severity_of_mem_errors isError] at warning
      cases warning
  · cases member

/-- The number of warnings at a range. -/
def warningCount (tree : SyntaxTree) (switches : Switches) (range : Range) : Nat :=
  (collect tree switches).countP fun diagnostic =>
    diagnostic.problem.severity == .warning && diagnostic.range == range

/-- The warnings at a range are counted by the literals there whose names are not bound. -/
theorem warningCount_eq (source : String) {switches : Switches}
    (enabled : switches.enabled = true) (unresolvedOn : switches.unresolvedVariables = true)
    (range : Range) :
    warningCount (SyntaxTree.parse source) switches range =
      (readTokens (Token.scan source.toList)).countP fun token =>
        tokenRange source.toList token = range ∧
          token.text ∉ names (SyntaxTree.parse source).root := by
  have noErrors (others : List Diagnostic)
      (areErrors : ∀ diagnostic ∈ others, diagnostic.problem.severity = .error) :
      others.countP (fun diagnostic =>
        diagnostic.problem.severity == .warning && diagnostic.range == range) = 0 := by
    rw [List.countP_eq_zero]
    intro diagnostic member
    rw [areErrors diagnostic member]
    exact Bool.false_ne_true
  rw [warningCount, collect, if_pos enabled, (List.mergeSort_perm _ _).countP_eq,
    List.countP_append, if_pos unresolvedOn, noErrors _ fun _ => severity_of_mem_errors,
    Nat.add_zero, unresolved_parse, List.countP_map, List.countP_filter]
  apply List.countP_congr
  intro token _
  simp [Problem.severity]

/-- Tokens that start one after another have different ranges. -/
theorem nodup_map_tokenRange {source : List Char} {tokens : List Token}
    (ordered : tokens.Pairwise fun first second =>
      first.startPosition source < second.startPosition source) :
    (tokens.map (tokenRange source)).Nodup := by
  rw [List.Nodup, List.pairwise_map]
  apply ordered.imp
  intro first second earlier same
  exact Position.ne_of_lt earlier (congrArg Range.start same)

/-- A literal that is read has one warning when its name is not bound, and else none. -/
theorem warningCount_tokenRange {source : String} (fits : utf8Length source.toList < UInt32.size)
    {switches : Switches} (enabled : switches.enabled = true)
    (unresolvedOn : switches.unresolvedVariables = true) {token : Token}
    (member : token ∈ readTokens (Token.scan source.toList)) :
    warningCount (SyntaxTree.parse source) switches (tokenRange source.toList token) =
      if token.text ∈ names (SyntaxTree.parse source).root then 0 else 1 := by
  have ranges := nodup_map_tokenRange (pairwise_readTokens fits)
  have atRange (other : Token) (otherMember : other ∈ readTokens (Token.scan source.toList)) :
      tokenRange source.toList other = tokenRange source.toList token ↔ other = token :=
    ⟨List.inj_on_of_nodup_map ranges otherMember member, congrArg _⟩
  rw [warningCount_eq source enabled unresolvedOn]
  split
  · rename_i bound
    rw [List.countP_eq_zero]
    intro other otherMember counted
    obtain ⟨sameRange, unbound⟩ := of_decide_eq_true counted
    rw [(atRange other otherMember).mp sameRange] at unbound
    exact unbound bound
  · rename_i unbound
    rw [← List.count_eq_one_of_mem ranges.of_map member]
    apply List.countP_congr
    intro other otherMember
    rw [decide_eq_true_eq, beq_iff_eq, atRange other otherMember]
    constructor
    · exact And.left
    · rintro rfl
      exact ⟨rfl, unbound⟩

/-! ## Agreement -/

/-- A literal that is read holds one of the tokens that name variables. -/
theorem IsRead.exists_token {source : String} {call literal : Node}
    (member : call ∈ (SyntaxTree.parse source).root.descendants) (isRead : IsRead call literal) :
    ∃ token ∈ readTokens (Token.scan source.toList),
      token ∈ Token.scan source.toList ∧ token.kind = .string ∧ literal = .leaf .string token := by
  have found : firstString? call = some literal :=
    Option.filter_eq_some_iff.mpr ⟨isRead.argument, beq_iff_eq.mpr isRead.string⟩
  obtain ⟨token, scanned, string, rfl⟩ := exists_token_of_firstString? member found
  have read := mem_reads_iff.mpr ⟨call, member, isRead⟩
  rw [reads_parse] at read
  obtain ⟨other, named, same⟩ := List.mem_map.mp read
  cases same
  exact ⟨token, named, scanned, string, rfl⟩

/-- There is a caret on every token. -/
theorem holds_startPosition {source : List Char} (fits : utf8Length source < UInt32.size)
    {token : Token} (member : token ∈ Token.scan source) :
    (tokenRange source token).Holds (token.startPosition source) := by
  constructor
  · exact Position.le_refl _
  · exact Token.startPosition_lt_stopPosition member fits

/-- Under a caret on a literal, nothing is defined exactly when no call binds its text. -/
theorem find?_eq_none_iff_of_holds {source : String} (fits : utf8Length source.toList < UInt32.size)
    {token : Token} (member : token ∈ Token.scan source.toList) (string : token.kind = .string)
    {position : Position} (holds : (tokenRange source.toList token).Holds position) (uri : String) :
    Definition.find? (SyntaxTree.parse source) uri position = none ↔
      token.text ∉ names (SyntaxTree.parse source).root := by
  apply Definition.find?_eq_none_iff
  exact SyntaxTree.nodeAt_of_caret member string fits holds.1 holds.2

/-- Warnings and definitions agree: a literal that is read has one warning when there is
no definition under any caret on it, and none when there is one under every caret. -/
theorem collect_agrees_find? {source : String} (fits : utf8Length source.toList < UInt32.size)
    (uri : String) (switches : Switches) :
    let tree := SyntaxTree.parse source
    (switches.enabled = true → switches.unresolvedVariables = true →
      ∀ call ∈ tree.root.descendants, ∀ literal, IsRead call literal →
        let range := nodeRange tree literal
        let nowhere := ∀ position, range.Holds position →
          Definition.find? tree uri position = none
        let everywhere := ∀ position, range.Holds position →
          (Definition.find? tree uri position).isSome = true
        (nowhere → warningCount tree switches range = 1) ∧
          (everywhere → warningCount tree switches range = 0) ∧ (nowhere ∨ everywhere)) ∧
      ∀ diagnostic ∈ collect tree switches, diagnostic.problem.severity = .warning →
        ∃ call ∈ tree.root.descendants, ∃ literal, IsRead call literal ∧
          diagnostic.range = nodeRange tree literal := by
  intro tree
  constructor
  · intro enabled unresolvedOn call callMember literal isRead range nowhere everywhere
    obtain ⟨token, named, scanned, string, rfl⟩ := isRead.exists_token callMember
    have count : warningCount tree switches range = _ :=
      warningCount_tokenRange fits enabled unresolvedOn named
    have undefined {position : Position} (holds : range.Holds position) :
        Definition.find? tree uri position = none ↔ token.text ∉ names tree.root :=
      find?_eq_none_iff_of_holds fits scanned string holds uri
    -- One caret on the literal decides for all of them.
    have start : range.Holds (token.startPosition source.toList) := holds_startPosition fits scanned
    refine ⟨?_, ?_, ?_⟩
    · intro isNowhere
      rw [count, if_neg ((undefined start).mp (isNowhere _ start))]
    · intro isEverywhere
      have defined := Option.isSome_iff_ne_none.mp (isEverywhere _ start)
      rw [count, if_pos (not_not.mp fun unbound => defined ((undefined start).mpr unbound))]
    · by_cases bound : token.text ∈ names tree.root
      · right
        intro position holds
        exact Option.isSome_iff_ne_none.mpr fun none => (undefined holds).mp none bound
      · left
        intro position holds
        exact (undefined holds).mpr bound
  · intro diagnostic member warning
    have unbound := mem_unresolved_of_warning member warning
    obtain ⟨literal, isRead, found⟩ := List.mem_filterMap.mp unbound
    obtain ⟨name, -, rfl⟩ := Option.map_eq_some_iff.mp found
    obtain ⟨call, callMember, reading⟩ := mem_reads_iff.mp isRead
    exact ⟨call, callMember, literal, reading, rfl⟩

/-- A variable that is only read, by a literal that no quote closes and that ends with a
character of two units, has a warning, and no definition under any caret on it. -/
theorem collect_agrees_find?_unbound :
    (∀ position, Range.Holds ⟨⟨0, 4⟩, ⟨0, 7⟩⟩ position →
      Definition.find? (SyntaxTree.parse "get('😀") "file:///a" position = none) ∧
        warningCount (SyntaxTree.parse "get('😀") {} ⟨⟨0, 4⟩, ⟨0, 7⟩⟩ = 1 := by
  have fits : utf8Length "get('😀".toList < UInt32.size := by decide +kernel
  let token : Token := ⟨.string, "'😀", ⟨⟨4, ⟨0, 4⟩⟩, ⟨9, ⟨0, 9⟩⟩⟩⟩
  have range : tokenRange "get('😀".toList token = ⟨⟨0, 4⟩, ⟨0, 7⟩⟩ := by decide +kernel
  have read : .leaf .string token ∈ reads (SyntaxTree.parse "get('😀").root := by
    rw [reads_parse]
    exact List.mem_map.mpr ⟨token, by decide +kernel, rfl⟩
  obtain ⟨call, member, isRead⟩ := mem_reads_iff.mp read
  have agreement :=
    (collect_agrees_find? fits "file:///a" {}).1 rfl rfl call member (.leaf .string token) isRead
  have unbound : token.text ∉ names (SyntaxTree.parse "get('😀").root := by
    have starts := map_start_calls "get('😀" token.text
    have noToken : tokensAt (Token.scan "get('😀".toList)
        (bindingIndices token.text (Token.scan "get('😀".toList)) = [] := by decide +kernel
    rw [noToken, List.map_nil, List.map_eq_nil_iff] at starts
    exact calls_eq_nil_iff.mp starts
  rw [← range]
  have nowhere (position : Position) (holds : (tokenRange "get('😀".toList token).Holds position) :
      Definition.find? (SyntaxTree.parse "get('😀") "file:///a" position = none :=
    (find?_eq_none_iff_of_holds fits (by decide +kernel) rfl holds _).mpr unbound
  exact ⟨nowhere, agreement.1 nowhere⟩

end Diagnostic

end SetScript
