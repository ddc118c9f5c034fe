import SetScript.Proofs.Binding.Site

/-!
# Looking up names

Two searches ask which names are bound.  One collects the names that any rule binds,
the other tries one rule after another for a single name.  They agree: the second
search comes back with nothing exactly for the names that the first does not collect.

Seen from the tokens, a name is bound at an index when a callee, an opening
parenthesis and the name follow one another there and fewer than `maxDepth` lists are
open.  The calls of a rule start at the tokens with these indices, in the same order.
-/

namespace SetScript.Binding

open Forest

/-! ## Agreement of the searches -/

/-- The rules are listed in the order in which they are consulted. -/
theorem rulesByPriority_eq : rulesByPriority = rules := by
  apply List.mergeSort_of_pairwise
  simp [rules]

/-- The calls of the first rule, or those of the second one where the first has none. -/
theorem calls_eq (root : Node) (name : String) :
    calls root name =
      if (Rule.calls ⟨"set", 0⟩ root name).isEmpty then Rule.calls ⟨"setr", 1⟩ root name
      else Rule.calls ⟨"set", 0⟩ root name := by
  rw [calls, rulesByPriority_eq]
  simp only [rules, List.map_cons, List.map_nil, List.find?_cons]
  cases first : Rule.calls ⟨"set", 0⟩ root name with
  | cons call others => rfl
  | nil =>
      cases second : Rule.calls ⟨"setr", 1⟩ root name with
      | cons call others => rfl
      | nil => rfl

theorem hasBindingCallee_iff {call : Node} :
    hasBindingCallee call = true ↔ ∃ rule ∈ rules, calleeName? call = some rule.callee := by
  rw [hasBindingCallee]
  cases calleeName? call with
  | none => simp
  | some name =>
      rw [Option.any_some, List.any_eq_true]
      refine exists_congr fun rule => and_congr_right fun _ => ?_
      rw [beq_iff_eq, Option.some.injEq, eq_comm]

theorem binds_iff {rule : Rule} {name : String} {call : Node} :
    rule.binds name call = true ↔
      calleeName? call = some rule.callee ∧ boundName? call = some name := by
  rw [Rule.binds, Bool.and_eq_true, beq_iff_eq, beq_iff_eq]

/-- A name is collected when a rule binds it by some call. -/
theorem mem_names_iff {root : Node} {name : String} :
    name ∈ names root ↔ ∃ rule ∈ rules, rule.calls root name ≠ [] := by
  constructor
  · intro collected
    obtain ⟨call, kept, bound⟩ := List.mem_filterMap.mp collected
    obtain ⟨below, binding⟩ := List.mem_filter.mp kept
    obtain ⟨rule, listed, called⟩ := hasBindingCallee_iff.mp binding
    refine ⟨rule, listed, List.ne_nil_of_mem (a := call) ?_⟩
    exact List.mem_filter.mpr ⟨below, binds_iff.mpr ⟨called, bound⟩⟩
  · rintro ⟨rule, listed, found⟩
    obtain ⟨call, isCall⟩ := List.exists_mem_of_ne_nil _ found
    obtain ⟨below, binds⟩ := List.mem_filter.mp isCall
    obtain ⟨called, bound⟩ := binds_iff.mp binds
    have binding := hasBindingCallee_iff.mpr ⟨rule, listed, called⟩
    exact List.mem_filterMap.mpr ⟨call, List.mem_filter.mpr ⟨below, binding⟩, bound⟩

/-- Nothing is found for a name exactly when it is not collected. -/
theorem calls_eq_nil_iff {root : Node} {name : String} :
    calls root name = [] ↔ name ∉ names root := by
  rw [mem_names_iff, calls_eq]
  cases first : Rule.calls ⟨"set", 0⟩ root name with
  | nil => simp [rules, first]
  | cons call others => simp [rules, first]

/-! ## Calls and their sites -/

/-- Only calls have sites. -/
theorem kind_of_site?_eq_some {node : Node} {site : Site} (found : site? node = some site) :
    node.kind = .call := by
  by_contra notCall
  simp [site?, calleeToken?, notCall] at found

/-- The calls that bind a name by a rule are the nodes whose site does. -/
theorem Rule.calls_eq (rule : Rule) (root : Node) (name : String) :
    rule.calls root name = root.descendants.filter fun node =>
      (site? node).any (Site.binds rule.callee name) := by
  rw [Rule.calls, Node.descendantsOfKind, List.filter_filter]
  refine List.filter_congr fun node _ => ?_
  rw [binds_eq]
  cases found : site? node with
  | none => rfl
  | some site => simp [kind_of_site?_eq_some found]

/-- A call starts with its callee. -/
theorem span_start_of_site?_eq_some {node : Node} (formed : node.Formed) {site : Site}
    (found : site? node = some site) : node.span.start = site.callee.span.start := by
  cases formed with
  | leaf => simp [site?_leaf] at found
  | parenthesized => simp [site?_enclose_of_ne] at found
  | arguments => simp [site?_enclose_of_ne] at found
  | call =>
      rw [site?_callNode] at found
      obtain ⟨literal, -, rfl⟩ := Option.map_eq_some_iff.mp found
      rfl

/-- What is computed from the items that are accepted is computed from what is found in
them. -/
theorem filterMap_filter_any {α β γ : Type} {find : α → Option β} {accepts : β → Bool}
    {before : α → Option γ} {after : β → γ} {items : List α}
    (agree : ∀ item ∈ items, ∀ found, find item = some found → before item = some (after found)) :
    (items.filter fun item => (find item).any accepts).filterMap before =
      ((items.filterMap find).filter accepts).map after := by
  induction items with
  | nil => rfl
  | cons item items ih =>
      rw [List.forall_mem_cons] at agree
      have others := ih agree.2
      cases found : find item with
      | none => simp [found, others]
      | some inner =>
          by_cases accepted : accepts inner = true
          · simp [found, accepted, agree.1 inner found, others]
          · simp [found, accepted, others]

/-! ## Sites by index -/

/-- The number of open lists in front of the token at an index. -/
def depthBefore (tokens : List Token) (index : Nat) : Nat :=
  ((tokens.take index).map Token.kind).foldl nest 0

/-- Whether a callee is called with a name as its first argument at an index. -/
def bindsAt (callee name : String) (tokens : List Token) (index : Nat) : Bool :=
  (tokens[index]?.any fun token => token.kind == .identifier && token.text == callee) &&
    (tokens[index + 1]?.any fun token => token.kind == .openParen) &&
    (tokens[index + 2]?.any fun token => token.kind == .string && token.text == name) &&
    depthBefore tokens index < maxDepth

/-- The indices at which a callee is called with a name as its first argument, in
ascending order. -/
def occurrences (callee name : String) (tokens : List Token) : List Nat :=
  (List.range tokens.length).filter (bindsAt callee name tokens)

/-- The sites of some tokens, found by trying every index. -/
theorem sitesFrom_eq_filterMap (depth : Nat) (tokens : List Token) :
    sitesFrom depth tokens = (List.range tokens.length).filterMap fun index =>
      siteAt? (((tokens.take index).map Token.kind).foldl nest depth) (tokens.drop index) := by
  induction tokens generalizing depth with
  | nil => rfl
  | cons token tokens ih =>
      rw [sitesFrom, ih, List.length_cons, List.range_succ_eq_map, List.filterMap_cons,
        List.filterMap_map]
      simp only [List.take_zero, List.map_nil, List.foldl_nil, List.drop_zero]
      cases siteAt? depth (token :: tokens) with
      | none => rfl
      | some site => rfl

/-- A site stands at the front of the tokens. -/
theorem tokens_eq_of_siteAt?_eq_some {depth : Nat} {tokens : List Token} {site : Site}
    (found : siteAt? depth tokens = some site) :
    ∃ paren rest, tokens = site.callee :: paren :: site.literal :: rest := by
  rcases tokens with _ | ⟨callee, _ | ⟨paren, _ | ⟨literal, rest⟩⟩⟩
  · cases found
  · cases found
  · cases found
  · rw [siteAt?] at found
    split at found
    · cases found
      exact ⟨paren, rest, rfl⟩
    · cases found

/-- What is asked of the tokens at an index is asked of the site there. -/
theorem bindsAt_eq (callee name : String) (tokens : List Token) (index : Nat) :
    bindsAt callee name tokens index =
      (siteAt? (depthBefore tokens index) (tokens.drop index)).any (Site.binds callee name) := by
  have first : tokens[index]? = (tokens.drop index)[0]? := by simp
  have second : tokens[index + 1]? = (tokens.drop index)[1]? := by simp
  have third : tokens[index + 2]? = (tokens.drop index)[2]? := by simp
  rw [bindsAt, first, second, third]
  generalize depthBefore tokens index = depth
  rcases tokens.drop index with _ | ⟨caller, _ | ⟨paren, _ | ⟨literal, others⟩⟩⟩
  · rfl
  · simp [siteAt?]
  · simp [siteAt?]
  · rw [siteAt?, Bool.eq_iff_iff]
    split
    · rename_i shape
      simp [shape, Site.binds]
    · rename_i shape
      simp only [Option.any_none, Bool.false_eq_true, iff_false]
      intro matched
      simp only [List.getElem?_cons_zero, List.getElem?_cons_succ, Option.any_some,
        Bool.and_eq_true, beq_iff_eq, decide_eq_true_eq] at matched
      exact shape ⟨matched.1.1.1.1, matched.1.1.2, matched.1.2.1, matched.2⟩

/-- The tokens at some indices. -/
def tokensAt (tokens : List Token) (indices : List Nat) : List Token :=
  indices.filterMap (tokens[·]?)

/-- The tokens at the indices of a callee and a name are the callees of the sites. -/
theorem tokensAt_occurrences (callee name : String) (tokens : List Token) :
    tokensAt tokens (occurrences callee name tokens) =
      ((sitesFrom 0 tokens).filter (Site.binds callee name)).map (·.callee) := by
  rw [sitesFrom_eq_filterMap, tokensAt, occurrences]
  simp only [funext (bindsAt_eq callee name tokens)]
  apply filterMap_filter_any
  intro index _ site found
  obtain ⟨paren, rest, tokensEq⟩ := tokens_eq_of_siteAt?_eq_some found
  rw [← List.head?_drop, tokensEq]
  rfl

theorem tokensAt_occurrences_eq_nil_iff {callee name : String} {tokens : List Token} :
    tokensAt tokens (occurrences callee name tokens) = [] ↔ occurrences callee name tokens = [] := by
  constructor
  · intro noToken
    rw [List.eq_nil_iff_forall_not_mem]
    intro index member
    have inRange := List.mem_range.mp (List.mem_of_mem_filter member)
    have missing := List.filterMap_eq_nil_iff.mp noToken index member
    exact absurd (List.getElem?_eq_none_iff.mp missing) (Nat.not_le.mpr inRange)
  · intro noIndex
    rw [noIndex]
    rfl

/-- The calls of a rule start with the tokens at its indices. -/
theorem Rule.map_start_calls (rule : Rule) (source name : String) :
    (rule.calls (SyntaxTree.parse source).root name).map (·.span.start) =
      (tokensAt (Token.scan source.toList)
        (occurrences rule.callee name (Token.scan source.toList))).map (·.span.start) := by
  rw [tokensAt_occurrences, ← filterMap_site?_descendants, List.map_map, ← List.filterMap_eq_map,
    Rule.calls_eq]
  apply filterMap_filter_any
  intro node member site found
  have formed := SyntaxTree.formed_of_mem_descendants member
  exact congrArg some (span_start_of_site?_eq_some formed found)

/-- A rule has a call for a name exactly when it has an index. -/
theorem Rule.calls_eq_nil_iff (rule : Rule) (source name : String) :
    rule.calls (SyntaxTree.parse source).root name = [] ↔
      occurrences rule.callee name (Token.scan source.toList) = [] := by
  rw [← tokensAt_occurrences_eq_nil_iff, ← List.map_eq_nil_iff, rule.map_start_calls,
    List.map_eq_nil_iff]

/-- The indices at which a name is bound: those of `set`, or those of `setr` where no
`set` binds the name. -/
def bindingIndices (name : String) (tokens : List Token) : List Nat :=
  if occurrences "set" name tokens = [] then occurrences "setr" name tokens
  else occurrences "set" name tokens

/-- The calls that bind a name start with the tokens at the indices of the name. -/
theorem map_start_calls (source name : String) :
    (calls (SyntaxTree.parse source).root name).map (·.span.start) =
      (tokensAt (Token.scan source.toList)
        (bindingIndices name (Token.scan source.toList))).map (·.span.start) := by
  have decided := Rule.calls_eq_nil_iff ⟨"set", 0⟩ source name
  rw [calls_eq, bindingIndices]
  by_cases noCall : Rule.calls ⟨"set", 0⟩ (SyntaxTree.parse source).root name = []
  · rw [if_pos (List.isEmpty_iff.mpr noCall), if_pos (decided.mp noCall)]
    exact Rule.map_start_calls ⟨"setr", 1⟩ source name
  · rw [if_neg (fun empty => noCall (List.isEmpty_iff.mp empty)),
      if_neg (fun noIndex => noCall (decided.mpr noIndex))]
    exact Rule.map_start_calls ⟨"set", 0⟩ source name

/-- The indices at which a name is bound are listed in ascending order. -/
theorem pairwise_bindingIndices (name : String) (tokens : List Token) :
    (bindingIndices name tokens).Pairwise (· < ·) := by
  have ascending (callee : String) : (occurrences callee name tokens).Pairwise (· < ·) :=
    List.pairwise_lt_range.filter _
  rw [bindingIndices]
  split
  · exact ascending "setr"
  · exact ascending "set"

theorem related_of_lt {related : Token → Token → Prop} {tokens : List Token}
    (ordered : tokens.Pairwise related) {index later : Nat} (isLater : index < later)
    {first second : Token} (firstAt : tokens[index]? = some first)
    (secondAt : tokens[later]? = some second) : related first second := by
  obtain ⟨inRange, rfl⟩ := List.getElem?_eq_some_iff.mp firstAt
  obtain ⟨laterInRange, rfl⟩ := List.getElem?_eq_some_iff.mp secondAt
  exact List.pairwise_iff_getElem.mp ordered index later inRange laterInRange isLater

/-- What holds between earlier and later tokens holds between those at ascending indices. -/
theorem pairwise_tokensAt {related : Token → Token → Prop} {tokens : List Token}
    {indices : List Nat} (ordered : tokens.Pairwise related) (ascending : indices.Pairwise (· < ·)) :
    (tokensAt tokens indices).Pairwise related := by
  refine List.pairwise_filterMap.mpr (ascending.imp ?_)
  intro index later isLater first firstAt second secondAt
  exact related_of_lt ordered isLater firstAt secondAt

/-- What holds between earlier and later tokens holds between the literals of sites. -/
theorem pairwise_literal {related : Token → Token → Prop} {tokens : List Token}
    (ordered : tokens.Pairwise related) (depth : Nat) :
    ((sitesFrom depth tokens).map (·.literal)).Pairwise related := by
  rw [List.pairwise_map, sitesFrom_eq_filterMap]
  refine List.pairwise_filterMap.mpr (List.pairwise_lt_range.imp ?_)
  intro index later isLater first firstAt second secondAt
  obtain ⟨_, _, firstEq⟩ := tokens_eq_of_siteAt?_eq_some firstAt
  obtain ⟨_, _, secondEq⟩ := tokens_eq_of_siteAt?_eq_some secondAt
  have firstLiteral : tokens[index + 2]? = some first.literal := by
    rw [← List.getElem?_drop, firstEq]
    rfl
  have secondLiteral : tokens[later + 2]? = some second.literal := by
    rw [← List.getElem?_drop, secondEq]
    rfl
  exact related_of_lt ordered (Nat.add_lt_add_right isLater 2) firstLiteral secondLiteral

end SetScript.Binding
