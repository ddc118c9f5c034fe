import SetScript.Proofs.Binding.Statement
import SetScript.Proofs.Diagnostic.Checks

/-!
# Diagnostics of several statements

Two texts with a semicolon on a line of its own between them have the diagnostics of both
texts, those of the second moved down.  Only names reach across the semicolon: a variable that
is read in one text may be bound in the other, and then there is no warning.

Each check finds in the longer document what it finds in the two texts, but the reports are
made check by check, so those of both texts come mixed.  Sorting puts them back, since all
reports on the first text start on earlier lines.
-/

namespace SetScript.Diagnostic

open Text Binding

/-! ## Moving findings and reports -/

/-- Both ends of a finding are places of a document. -/
def Finding.IsIn (content : List Char) (finding : Finding) : Prop :=
  finding.span.start.IsIn content ∧ finding.span.stop.IsIn content

/-- A finding moved on by some bytes and down by some rows. -/
def Finding.shift (bytes rows : Nat) (finding : Finding) : Finding :=
  ⟨finding.span.shift bytes rows, finding.problem⟩

/-- A diagnostic with both ends of its range moved down by some lines. -/
def down (rows : Nat) (diagnostic : Diagnostic) : Diagnostic :=
  ⟨⟨diagnostic.range.start.down rows, diagnostic.range.stop.down rows⟩, diagnostic.problem⟩

namespace Finding

variable {content : List Char} {finding : Finding}

/-- A report stays the same when the document goes on. -/
theorem report_append (isIn : finding.IsIn content) (rest : List Char) :
    finding.report (content ++ rest) = finding.report content := by
  rw [report, Range.ofSpan, Position.ofPoint_append isIn.1, Position.ofPoint_append isIn.2]
  rfl

/-- A report moves down behind complete lines. -/
theorem report_shift (isIn : finding.IsIn content) (lines : List Char) :
    (finding.shift (utf8Length lines + 1) (lines.count '\n' + 1)).report
        ((lines ++ ['\n']) ++ content) =
      (finding.report content).down (lines.count '\n' + 1) := by
  rw [report, Range.ofSpan, shift, Span.shift, Position.ofPoint_shift isIn.1,
    Position.ofPoint_shift isIn.2]
  rfl

end Finding

/-! ## Checks -/

/-- A check that looks at a node alone, wherever it stands. -/
structure IsLocal (check : Node → Option Finding) : Prop where
  shift : ∀ bytes rows node,
    check (node.shift bytes rows) = (check node).map (Finding.shift bytes rows)
  punctuation : ∀ token, check (.leaf .punctuation token) = none
  isIn : ∀ {source : String} {node : Node} {finding : Finding},
    node ∈ (SyntaxTree.parse source).root.descendants → check node = some finding →
      finding.IsIn source.toList

theorem isLocal_reading : IsLocal reading where
  shift bytes rows node := by
    rw [reading, reading, calleeName?_shift, firstString?_shift]
    split
    · rw [Option.bind_map, Option.map_bind]
      apply Option.bind_congr
      intro literal _
      simp [Finding.shift, Function.comp_def]
    · rfl
  punctuation token := by
    rw [reading, if_neg]
    intro callee
    cases kind_of_calleeName?_eq_some callee
  isIn member found := by
    rw [reading] at found
    split at found
    · obtain ⟨literal, string, found⟩ := Option.bind_eq_some_iff.mp found
      obtain ⟨name, -, rfl⟩ := Option.map_eq_some_iff.mp found
      obtain ⟨argument, -⟩ := Option.filter_eq_some_iff.mp string
      have below := Node.traverse_children_subset member (mem_of_firstArgument?_eq_some argument)
      obtain ⟨text, -, delimits⟩ := SyntaxTree.exists_delimits below
      exact ⟨delimits.isIn_start, delimits.isIn_stop⟩
    · cases found

theorem isLocal_stray : IsLocal stray where
  shift bytes rows node := by
    rw [stray, stray, Node.kind_shift, Node.literal?_shift, Node.span_shift]
    split
    · rw [Option.map_map]
      rfl
    · rfl
  punctuation token := by
    rw [stray, if_neg]
    exact Kind.noConfusion
  isIn member found := by
    rw [stray] at found
    split at found
    · obtain ⟨text, -, rfl⟩ := Option.map_eq_some_iff.mp found
      obtain ⟨text, -, delimits⟩ := SyntaxTree.exists_delimits member
      exact ⟨delimits.isIn_start, delimits.isIn_stop⟩
    · cases found

theorem isClosed_shift (bytes rows : Nat) (node : Node) :
    isClosed (node.shift bytes rows) = isClosed node := by
  rw [isClosed, isClosed, Node.children_shift, List.length_map, List.getLast?_map, Option.any_map]
  simp only [Node.isNamed_shift, Node.literal?_shift]

theorem isLocal_unfinished {kind : Kind} (notPunctuation : kind ≠ .punctuation) :
    IsLocal (unfinished kind) where
  shift bytes rows node := by
    rw [unfinished, unfinished, Node.kind_shift, isClosed_shift, Node.span_shift]
    split
    · rfl
    · rfl
  punctuation token := by
    rw [unfinished, if_neg]
    exact fun left => notPunctuation left.1.symm
  isIn member found := by
    rw [unfinished] at found
    split at found
    · cases found
      obtain ⟨text, -, delimits⟩ := SyntaxTree.exists_delimits member
      exact ⟨delimits.isIn_stop, delimits.isIn_stop⟩
    · cases found

/-- All checks are local. -/
theorem isLocal_of_mem_checks {switches : Switches} {check : Node → Option Finding}
    (member : check ∈ checks switches) : IsLocal check := by
  rcases List.mem_append.mp member with warns | faults
  · split at warns
    · rw [List.mem_singleton.mp warns]
      exact isLocal_reading
    · cases warns
  · split at faults
    · simp only [List.mem_cons, List.not_mem_nil, or_false] at faults
      rcases faults with rfl | rfl | rfl
      · exact isLocal_stray
      · exact isLocal_unfinished Kind.noConfusion
      · exact isLocal_unfinished Kind.noConfusion
    · cases faults

/-! ## Reports -/

variable {first second : String} {switches : Switches}

/-- A local check reports on two texts what it reports on each of them. -/
theorem IsLocal.reportsOf_append_statement {check : Node → Option Finding}
    (isLocal : IsLocal check) (first second : String) :
    reportsOf (first ++ "\n;\n" ++ second) check =
      reportsOf first check ++
        (reportsOf second check).map (down (first.toList.count '\n' + 2)) := by
  have content : (first ++ "\n;\n" ++ second).toList =
      first.toList ++ '\n' :: ';' :: '\n' :: second.toList := by
    simp
  have lines : first.toList ++ '\n' :: ';' :: '\n' :: second.toList =
      ((first.toList ++ ['\n', ';']) ++ ['\n']) ++ second.toList := by
    simp
  have bytes : utf8Length (first.toList ++ ['\n', ';']) + 1 = utf8Length first.toList + 3 := by
    rw [utf8Length_append]
    rfl
  have rows : (first.toList ++ ['\n', ';']).count '\n' + 1 = first.toList.count '\n' + 2 := by
    rw [List.count_append]
    rfl
  have moved : check ∘ Node.shift (utf8Length first.toList + 3) (first.toList.count '\n' + 2) =
      fun node => (check node).map
        (Finding.shift (utf8Length first.toList + 3) (first.toList.count '\n' + 2)) :=
    funext fun node => isLocal.shift _ _ node
  rw [reportsOf, SyntaxTree.descendants_parse_append_statement, List.filterMap_append,
    List.filterMap_cons_none (isLocal.punctuation _), List.filterMap_map, moved,
    ← List.map_filterMap, List.map_append, List.map_map, reportsOf, reportsOf, List.map_map,
    content]
  congr 1
  · apply List.map_congr_left
    intro finding member
    obtain ⟨node, below, found⟩ := List.mem_filterMap.mp member
    exact Finding.report_append (isLocal.isIn below found) _
  · apply List.map_congr_left
    intro finding member
    obtain ⟨node, below, found⟩ := List.mem_filterMap.mp member
    have report := Finding.report_shift (isLocal.isIn below found) (first.toList ++ ['\n', ';'])
    rw [bytes, rows] at report
    rw [lines]
    exact report

/-- Reports start on lines of the document. -/
theorem line_le_of_mem_reports {source : String} (fits : utf8Length source.toList < UInt32.size)
    {diagnostic : Diagnostic} (member : diagnostic ∈ reports source switches) :
    diagnostic.range.start.line.toNat ≤ source.toList.count '\n' := by
  obtain ⟨check, isCheck, reported⟩ := List.mem_flatMap.mp member
  obtain ⟨finding, found, rfl⟩ := List.mem_map.mp reported
  obtain ⟨node, below, found⟩ := List.mem_filterMap.mp found
  exact Position.toNat_line_ofPoint_le ((isLocal_of_mem_checks isCheck).isIn below found).1 fits

/-- Whether a diagnostic starts on one of the lines up to some row. -/
def startsBy (row : Nat) (diagnostic : Diagnostic) : Bool :=
  diagnostic.range.start.line.toNat ≤ row

theorem le_eq_false_of_startsBy {row : Nat} (early late : Diagnostic)
    (isEarly : early.startsBy row = true) (isLate : late.startsBy row = false) :
    le late early = false := by
  rw [startsBy, decide_eq_true_eq] at isEarly
  rw [startsBy, decide_eq_false_iff_not] at isLate
  rw [le, ← Bool.not_eq_true, Position.le_iff_toNat]
  omega

/-- The sorted reports on two texts are those on the first and those on the second. -/
theorem mergeSort_reports_append_statement
    (fits : utf8Length first.toList + utf8Length second.toList + 3 < UInt32.size) :
    (reports (first ++ "\n;\n" ++ second) switches).mergeSort le =
      (reports first switches).mergeSort le ++
        ((reports second switches).mergeSort le).map (down (first.toList.count '\n' + 2)) := by
  have firstRows := count_newline_le_utf8Length first.toList
  have secondRows := count_newline_le_utf8Length second.toList
  have secondFits : ∀ diagnostic ∈ reports second switches,
      diagnostic.range.start.line.toNat + (first.toList.count '\n' + 2) < UInt32.size := by
    intro diagnostic member
    have line := line_le_of_mem_reports (by omega) member
    omega
  have mixed : reports (first ++ "\n;\n" ++ second) switches =
      (checks switches).flatMap fun check => reportsOf first check ++
        (reportsOf second check).map (down (first.toList.count '\n' + 2)) :=
    List.flatMap_congr fun check isCheck =>
      (isLocal_of_mem_checks isCheck).reportsOf_append_statement first second
  -- Moved reports start at least two lines below the last line of the first text.
  have areEarly : ∀ check ∈ checks switches, ∀ diagnostic ∈ reportsOf first check,
      diagnostic.startsBy (first.toList.count '\n') = true := by
    intro check isCheck diagnostic reported
    have member := List.mem_flatMap.mpr ⟨check, isCheck, reported⟩
    exact decide_eq_true (line_le_of_mem_reports (by omega) member)
  have areLate : ∀ check ∈ checks switches,
      ∀ diagnostic ∈ (reportsOf second check).map (down (first.toList.count '\n' + 2)),
        diagnostic.startsBy (first.toList.count '\n') = false := by
    intro check isCheck diagnostic moved
    obtain ⟨original, reported, rfl⟩ := List.mem_map.mp moved
    have member := List.mem_flatMap.mpr ⟨check, isCheck, reported⟩
    rw [startsBy, down, Position.toNat_line_down (secondFits original member),
      decide_eq_false_iff_not]
    omega
  rw [mixed, Sorting.mergeSort_flatMap_append orders_le areEarly areLate le_eq_false_of_startsBy,
    ← List.map_flatMap]
  congr 1
  apply (List.map_mergeSort _).symm
  intro one isOne other isOther
  exact (Position.le_down (secondFits one isOne) (secondFits other isOther)).symm

/-! ## Diagnostics -/

/-- Bound names settle a report wherever it stands. -/
theorem not_resolvedBy_comp_down (bound : List String) (rows : Nat) :
    (!resolvedBy bound ·) ∘ down rows = (!resolvedBy bound ·) :=
  rfl

/-- The reports that no name in two lists settles. -/
theorem filter_resolvedBy_append (bound others : List String) (diagnostics : List Diagnostic) :
    diagnostics.filter (!resolvedBy (bound ++ others) ·) =
      (diagnostics.filter (!resolvedBy bound ·)).filter (!resolvedBy others ·) := by
  rw [List.filter_filter]
  apply List.filter_congr
  intro diagnostic _
  rw [resolvedBy, resolvedBy, resolvedBy]
  cases diagnostic.problem with
  | unresolved name => simp [Bool.and_comm]
  | unexpected text => rfl
  | unclosed => rfl

/-- The diagnostics of two texts that a semicolon separates are those of the first, except
for warnings of variables that the second binds, and those of the second, except for warnings
of variables that the first binds, moved down. -/
theorem collect_append_statement
    (fits : utf8Length first.toList + utf8Length second.toList + 3 < UInt32.size)
    (switches : Switches) :
    let firstTree := SyntaxTree.parse first
    let secondTree := SyntaxTree.parse second
    collect (SyntaxTree.parse (first ++ "\n;\n" ++ second)) switches =
      (collect firstTree switches).filter (!resolvedBy (names secondTree.root) ·) ++
        ((collect secondTree switches).filter (!resolvedBy (names firstTree.root) ·)).map
          (down (first.toList.count '\n' + 2)) := by
  intro firstTree secondTree
  by_cases enabled : switches.enabled = true
  · have swapped := List.filter_comm (!resolvedBy (names secondTree.root) ·)
      (!resolvedBy (names firstTree.root) ·) ((reports second switches).mergeSort le)
    rw [collect_parse _ enabled, collect_parse _ enabled, collect_parse _ enabled,
      mergeSort_reports_append_statement fits, names_parse_append_statement, List.filter_append,
      List.filter_map, not_resolvedBy_comp_down, filter_resolvedBy_append,
      filter_resolvedBy_append, swapped]
  · simp [collect, enabled]

/-- The second text binds what the first reads and leaves its own warning, on the third line. -/
theorem collect_append_statement_bound :
    let first := "get('x')"
    let second := "set('x', get('y'))"
    collect (SyntaxTree.parse (first ++ "\n;\n" ++ second)) {} =
      [⟨⟨⟨2, 13⟩, ⟨2, 16⟩⟩, .unresolved "'y'"⟩] := by
  intro first second
  have fits : utf8Length first.toList + utf8Length second.toList + 3 < UInt32.size := by
    decide +kernel
  rw [collect_append_statement fits]
  decide +kernel

end SetScript.Diagnostic
