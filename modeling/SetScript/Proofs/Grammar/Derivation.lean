import SetScript.Proofs.Grammar.Clean

/-!
# Derivations and clean readings

The tokens of a script are those that are read clean.  A clean reading gives a derivation
by induction over the reading.  For the converse, one item after another is put in front
of a clean reading; where an identifier is put in front of parentheses, the two are read
as one call, whatever the derivation makes of them.
-/

namespace SetScript

open Grammar

namespace Forest

open Node

/-! ## From readings to derivations -/

section Derivation

variable {rules : Rules} {enclosure : Enclosure} {depth room : Nat} {token : Token}
  {tokens rest : List Token} {nodes : List Node} {items : List Item} {body : List TokenKind}

/-- A leaf that is no error is an item, and its token derives it. -/
theorem exists_item_of_role (rules : Rules) {kind : Kind} {next? : Option TokenKind}
    (isLeaf : role enclosure depth token.kind next? = .leaf kind) (notError : kind ≠ .error) :
    ∃ item, item? (.leaf kind token) = some item ∧ item.StandsIn enclosure ∧
      ∀ {room items body}, Items rules room items body →
        Items rules room (item :: items) (token.kind :: body) := by
  cases tokenKind : token.kind <;> rw [tokenKind, role] at isLeaf
  case string =>
    cases isLeaf
    exact ⟨.expression, rfl, trivial, fun others => .expression .string others⟩
  case number =>
    cases isLeaf
    exact ⟨.expression, rfl, trivial, fun others => .expression .number others⟩
  case identifier =>
    split_ifs at isLeaf
    cases isLeaf
    exact ⟨.expression, rfl, trivial, fun others => .expression .identifier others⟩
  case comma =>
    split_ifs at isLeaf with arguments <;> cases isLeaf
    · exact ⟨.comma, by simp [item?, tokenKind], arguments, fun others => .comma others⟩
    · exact absurd rfl notError
  case semicolon =>
    split_ifs at isLeaf with document
    cases isLeaf
    exact ⟨.semicolon, by simp [item?, tokenKind], document, fun others => .semicolon others⟩
  case openParen | closeParen =>
    split_ifs at isLeaf
    cases isLeaf
    exact absurd rfl notError
  case unknown =>
    cases isLeaf
    exact absurd rfl notError

/-- The tokens that end an enclosure, in front of what is left over. -/
def ending (rest : List TokenKind) : Enclosure → List TokenKind
  | .document => rest
  | .parentheses | .arguments => .closeParen :: rest

theorem ending_of_ne (rest : List TokenKind) (inside : enclosure ≠ .document) :
    ending rest enclosure = .closeParen :: rest := by
  cases enclosure with
  | document => exact absurd rfl inside
  | parentheses | arguments => rfl

/-- What is read clean can be derived, up to the end of its enclosure. -/
theorem Reads.exists_items (reads : Reads enclosure depth tokens nodes rest)
    (clean : Clean rules enclosure nodes) :
    ∃ body, tokens.map Token.kind = body ++ ending (rest.map Token.kind) enclosure ∧
      Items rules (maxDepth - depth) (nodes.filterMap item?) body := by
  induction reads with
  | @done enclosure depth =>
      cases enclosure with
      | document => exact ⟨[], rfl, .nil⟩
      | parentheses | arguments =>
          obtain ⟨last, isLast, -⟩ := clean.closes Enclosure.noConfusion
          cases isLast
  | @leaf _ _ token _ _ _ _ isLeaf others ih =>
      obtain ⟨notError, cleanOthers⟩ := (clean_leaf_cons_iff isLeaf _).mp clean
      obtain ⟨body, same, derived⟩ := ih cleanOthers
      obtain ⟨item, isItem, -, derives⟩ := exists_item_of_role rules isLeaf notError
      refine ⟨token.kind :: body, ?_, ?_⟩
      · rw [List.map_cons, same, List.cons_append]
      · rw [List.filterMap_cons_some isItem]
        exact derives derived
  | close kind inside =>
      refine ⟨[], ?_, ?_⟩
      · rw [List.map_cons, kind, ending_of_ne _ inside, List.nil_append]
      · rw [List.filterMap_cons_none (by simp [item?, kind])]
        exact .nil
  | stop kind inside =>
      obtain ⟨last, isLast, -⟩ := clean.closes inside
      cases isLast
  | list kind room inner others innerIh ih =>
      obtain ⟨⟨cleanBody, fits⟩, cleanOthers⟩ := (clean_list_cons_iff rfl kind _ _).mp clean
      obtain ⟨inside, sameInside, derivedInside⟩ := innerIh cleanBody
      obtain ⟨body, same, derived⟩ := ih cleanOthers
      have expression := Expression.parenthesized derivedInside fits
      rw [Nat.sub_add_eq, Nat.sub_add_cancel (Nat.sub_pos_of_lt room)] at expression
      refine ⟨_, ?_, .expression expression derived⟩
      rw [List.map_cons, kind, sameInside, ending, same]
      simp
  | call kind opens room inner others innerIh ih =>
      obtain ⟨⟨cleanBody, fits⟩, cleanOthers⟩ := (clean_call_cons_iff kind opens _ _).mp clean
      obtain ⟨inside, sameInside, derivedInside⟩ := innerIh cleanBody
      obtain ⟨body, same, derived⟩ := ih cleanOthers
      have expression := Expression.call derivedInside fits
      rw [Nat.sub_add_eq, Nat.sub_add_cancel (Nat.sub_pos_of_lt room)] at expression
      refine ⟨_, ?_, .expression expression derived⟩
      rw [List.map_cons, List.map_cons, kind, opens, sameInside, ending, same]
      simp

/-- What is read without errors stands where it may stand. -/
theorem Reads.loose_items (reads : Reads enclosure depth tokens nodes rest)
    (noError : ∀ node ∈ traverse nodes, node.kind ≠ .error) :
    loose enclosure (nodes.filterMap item?) := by
  induction reads with
  | done | stop => simp [loose]
  | close kind inside => simp [loose, item?, kind]
  | leaf isLeaf others ih =>
      rw [traverse_leaf_cons, List.forall_mem_cons] at noError
      obtain ⟨item, isItem, standsIn, -⟩ := exists_item_of_role loose isLeaf noError.1
      rw [List.filterMap_cons_some isItem, loose, List.forall_mem_cons]
      exact ⟨standsIn, ih noError.2⟩
  | list kind room inner others innerIh ih | call kind opens room inner others innerIh ih =>
      rw [traverse_enclose_cons, List.forall_mem_cons, List.forall_mem_append] at noError
      rw [List.filterMap_cons_some (item?_enclose _ _ _), loose, List.forall_mem_cons]
      exact ⟨trivial, ih noError.2.2⟩

/-- The loose rules ask nothing of a list but that it has no errors. -/
theorem Reads.fits_loose (reads : Reads enclosure depth tokens nodes rest)
    (noError : ∀ node ∈ traverse nodes, node.kind ≠ .error) :
    ∀ node ∈ traverse nodes, node.Fits loose := by
  induction reads with
  | done | stop => simp
  | close kind inside =>
      rw [traverse_leaf_cons, traverse_nil, List.forall_mem_singleton]
      exact fits_of_enclosure?_eq_none rfl
  | leaf isLeaf others ih =>
      rw [traverse_leaf_cons, List.forall_mem_cons] at noError ⊢
      have noList := Kind.enclosure?_of_fits (fits_of_role_eq_leaf isLeaf)
      exact ⟨fits_of_enclosure?_eq_none noList, ih noError.2⟩
  | list kind room inner others innerIh ih =>
      rw [traverse_enclose_cons, traverse_leaf_cons, List.cons_append, List.forall_mem_cons,
        List.forall_mem_cons, List.forall_mem_append] at noError ⊢
      obtain ⟨-, -, noErrorInside, noErrorBehind⟩ := noError
      refine ⟨?_, fits_of_enclosure?_eq_none rfl, innerIh noErrorInside, ih noErrorBehind⟩
      rintro enclosure ⟨⟩
      rw [items_enclose kind]
      exact inner.loose_items noErrorInside
  | call kind opens room inner others innerIh ih =>
      rw [traverse_enclose_cons, traverse_leaf_cons, traverse_enclose_cons, traverse_leaf_cons,
        traverse_nil, List.append_nil, List.cons_append, List.cons_append, List.cons_append,
        List.forall_mem_cons, List.forall_mem_cons, List.forall_mem_cons, List.forall_mem_cons,
        List.forall_mem_append] at noError ⊢
      obtain ⟨-, -, -, -, noErrorInside, noErrorBehind⟩ := noError
      refine ⟨fits_of_enclosure?_eq_none rfl, fits_of_enclosure?_eq_none rfl, ?_,
        fits_of_enclosure?_eq_none rfl, innerIh noErrorInside, ih noErrorBehind⟩
      rintro enclosure ⟨⟩
      rw [items_enclose opens]
      exact inner.loose_items noErrorInside

end Derivation

/-! ## From derivations to readings -/

/-- Tokens are read clean into some items, and some tokens are left over. -/
def ReadsClean (rules : Rules) (enclosure : Enclosure) (depth : Nat) (tokens : List Token)
    (items : List Item) (rest : List Token) : Prop :=
  ∃ nodes, Reads enclosure depth tokens nodes rest ∧ Clean rules enclosure nodes ∧
    nodes.filterMap item? = items

namespace ReadsClean

variable {rules : Rules} {enclosure : Enclosure} {depth : Nat} {token paren : Token}
  {tokens later rest : List Token} {items inside : List Item}

theorem nil (rules : Rules) (depth : Nat) : ReadsClean rules .document depth [] [] [] :=
  ⟨[], .done, clean_nil rules, rfl⟩

theorem close (rules : Rules) (outside : enclosure ≠ .document) (depth : Nat)
    (isClose : token.kind = .closeParen) (tokens : List Token) :
    ReadsClean rules enclosure depth (token :: tokens) [] tokens := by
  refine ⟨_, .close isClose outside, clean_close rules enclosure isClose, ?_⟩
  rw [List.filterMap_cons_none (by simp [item?, isClose]), List.filterMap_nil]

theorem leaf {kind : Kind} {item : Item}
    (isLeaf : role enclosure depth token.kind (tokens.head?.map Token.kind) = .leaf kind)
    (notError : kind ≠ .error) (isItem : item? (.leaf kind token) = some item)
    (others : ReadsClean rules enclosure depth tokens items rest) :
    ReadsClean rules enclosure depth (token :: tokens) (item :: items) rest := by
  obtain ⟨nodes, reads, clean, rfl⟩ := others
  refine ⟨_, .leaf isLeaf reads, ?_, List.filterMap_cons_some isItem⟩
  exact (clean_leaf_cons_iff isLeaf nodes).mpr ⟨notError, clean⟩

theorem list (opens : paren.kind = .openParen) (room : depth < maxDepth)
    (inner : ReadsClean rules .parentheses (depth + 1) tokens inside later)
    (fits : rules .parentheses inside)
    (others : ReadsClean rules enclosure depth later items rest) :
    ReadsClean rules enclosure depth (paren :: tokens) (.expression :: items) rest := by
  obtain ⟨body, readsBody, cleanBody, rfl⟩ := inner
  obtain ⟨nodes, reads, clean, rfl⟩ := others
  refine ⟨_, .list opens room readsBody reads, ?_, rfl⟩
  exact (clean_list_cons_iff rfl opens body nodes).mpr ⟨⟨cleanBody, fits⟩, clean⟩

theorem call (callee : token.kind = .identifier) (opens : paren.kind = .openParen)
    (room : depth < maxDepth)
    (inner : ReadsClean rules .arguments (depth + 1) tokens inside later)
    (fits : rules .arguments inside)
    (others : ReadsClean rules enclosure depth later items rest) :
    ReadsClean rules enclosure depth (token :: paren :: tokens) (.expression :: items) rest := by
  obtain ⟨body, readsBody, cleanBody, rfl⟩ := inner
  obtain ⟨nodes, reads, clean, rfl⟩ := others
  refine ⟨_, .call callee opens room readsBody reads, ?_, rfl⟩
  exact (clean_call_cons_iff callee opens body nodes).mpr ⟨⟨cleanBody, fits⟩, clean⟩

/-- Parentheses and arguments differ only in what they make of a comma, and in parentheses
it is an error. -/
theorem role_arguments {kind : Kind} {tokenKind : TokenKind} {next? : Option TokenKind}
    (isLeaf : role .parentheses depth tokenKind next? = .leaf kind) (notError : kind ≠ .error) :
    role .arguments depth tokenKind next? = .leaf kind := by
  cases tokenKind with
  | comma =>
      cases isLeaf
      exact absurd rfl notError
  | _ => exact isLeaf

/-- What is read clean in parentheses is read clean as arguments. -/
theorem arguments (inner : ReadsClean rules .parentheses depth tokens items rest) :
    ReadsClean rules .arguments depth tokens items rest := by
  obtain ⟨nodes, reads, clean, rfl⟩ := inner
  refine ⟨nodes, ?_, ⟨clean.tidy, fun _ => clean.closes Enclosure.noConfusion⟩, rfl⟩
  generalize equal : Enclosure.parentheses = enclosure at reads clean
  induction reads with
  | done => exact .done
  | leaf isLeaf others ih =>
      subst equal
      obtain ⟨notError, cleanOthers⟩ := (clean_leaf_cons_iff isLeaf _).mp clean
      exact .leaf (role_arguments isLeaf notError) (ih rfl cleanOthers)
  | close kind _ => exact .close kind Enclosure.noConfusion
  | stop kind _ => exact .stop kind Enclosure.noConfusion
  | list kind room inner others _ ih =>
      obtain ⟨-, cleanOthers⟩ := (clean_list_cons_iff rfl kind _ _).mp clean
      exact .list kind room inner (ih equal cleanOthers)
  | call kind opens room inner others _ ih =>
      obtain ⟨-, cleanOthers⟩ := (clean_call_cons_iff kind opens _ _).mp clean
      exact .call kind opens room inner (ih equal cleanOthers)

/-- An opening parenthesis that is read clean opens a list. -/
theorem exists_list (opens : paren.kind = .openParen)
    (reading : ReadsClean rules enclosure depth (paren :: tokens) items rest) :
    ∃ inside later others, depth < maxDepth ∧ items = .expression :: others ∧
      ReadsClean rules .parentheses (depth + 1) tokens inside later ∧
        rules .parentheses inside ∧ ReadsClean rules enclosure depth later others rest := by
  obtain ⟨nodes, reads, clean, rfl⟩ := reading
  cases reads with
  | leaf isLeaf others =>
      obtain ⟨notError, -⟩ := (clean_leaf_cons_iff isLeaf _).mp clean
      rw [opens, role] at isLeaf
      split_ifs at isLeaf
      cases isLeaf
      exact absurd rfl notError
  | close kind _ => cases opens.symm.trans kind
  | stop kind _ => cases opens.symm.trans kind
  | list _ room inner others =>
      obtain ⟨⟨cleanBody, fits⟩, cleanOthers⟩ := (clean_list_cons_iff rfl opens _ _).mp clean
      exact ⟨_, _, _, room, rfl, ⟨_, inner, cleanBody, rfl⟩, fits, _, others, cleanOthers, rfl⟩
  | call kind _ _ _ _ => cases opens.symm.trans kind

/-- An identifier can be put in front of what is read clean.  It is read as one item with
the parentheses behind it. -/
theorem identifier (lawful : rules.Lawful) (callee : token.kind = .identifier)
    (reading : ReadsClean rules enclosure depth tokens items rest) :
    ∃ merged, ReadsClean rules enclosure depth (token :: tokens) merged rest ∧
      ∀ raw, Merges raw items → Merges (.expression :: raw) merged := by
  by_cases isCallee : tokens.head?.map Token.kind = some .openParen ∧ depth < maxDepth
  · obtain ⟨paren, isHead, opens⟩ := Option.map_eq_some_iff.mp isCallee.1
    obtain ⟨inner, rfl⟩ := List.head?_eq_some_iff.mp isHead
    obtain ⟨inside, later, others, room, rfl, readsInside, fits, readsOthers⟩ :=
      reading.exists_list opens
    refine ⟨.expression :: others, ?_, fun raw merges => .merge merges⟩
    exact .call callee opens room readsInside.arguments (lawful.arguments fits) readsOthers
  · have isLeaf : role enclosure depth token.kind (tokens.head?.map Token.kind) =
        .leaf .identifier := by
      rw [callee, role, if_neg isCallee]
    refine ⟨.expression :: items, ?_, fun raw merges => .keep merges⟩
    exact .leaf isLeaf Kind.noConfusion rfl reading

end ReadsClean

end Forest

namespace Grammar

open Forest

variable {rules : Rules} {enclosure : Enclosure} {depth : Nat}

/-- The closing parenthesis at the end of some tokens. -/
theorem exists_close {tokens : List Token} {body : List TokenKind}
    (same : tokens.map Token.kind = body ++ [.closeParen]) :
    ∃ inner close, tokens = inner ++ [close] ∧ inner.map Token.kind = body ∧
      close.kind = .closeParen := by
  obtain ⟨inner, last, rfl, sameBody, sameLast⟩ := List.map_eq_append_iff.mp same
  obtain ⟨close, rfl, isClose⟩ := List.map_eq_singleton_iff.mp sameLast
  exact ⟨inner, close, rfl, sameBody, isClose⟩

mutual

/-- An expression can be put in front of what is read clean. -/
theorem Expression.readsClean (lawful : rules.Lawful) {room : Nat} {kinds : List TokenKind} :
    Expression rules room kinds → ∀ {enclosure depth tokens more items rest},
      depth + room = maxDepth → tokens.map Token.kind = kinds →
        ReadsClean rules enclosure depth more items rest →
          ∃ merged, ReadsClean rules enclosure depth (tokens ++ more) merged rest ∧
            ∀ raw, Merges raw items → Merges (.expression :: raw) merged
  | .identifier, enclosure, depth, tokens, more, items, rest, _, same, reading => by
      obtain ⟨token, rfl, kind⟩ := List.map_eq_singleton_iff.mp same
      exact reading.identifier lawful kind
  | .string, enclosure, depth, tokens, more, items, rest, _, same, reading => by
      obtain ⟨token, rfl, kind⟩ := List.map_eq_singleton_iff.mp same
      have isLeaf : role enclosure depth token.kind (more.head?.map Token.kind) = .leaf .string := by
        rw [kind]
        rfl
      refine ⟨.expression :: items, ?_, fun raw merges => .keep merges⟩
      exact .leaf isLeaf Kind.noConfusion rfl reading
  | .number, enclosure, depth, tokens, more, items, rest, _, same, reading => by
      obtain ⟨token, rfl, kind⟩ := List.map_eq_singleton_iff.mp same
      have isLeaf : role enclosure depth token.kind (more.head?.map Token.kind) = .leaf .number := by
        rw [kind]
        rfl
      refine ⟨.expression :: items, ?_, fun raw merges => .keep merges⟩
      exact .leaf isLeaf Kind.noConfusion rfl reading
  | .parenthesized inside fits, enclosure, depth, tokens, more, items, rest, sum, same,
      reading => by
      obtain ⟨paren, inList, rfl, opens, sameList⟩ := List.map_eq_cons_iff.mp same
      obtain ⟨inner, close, rfl, sameInner, isClose⟩ := exists_close sameList
      obtain ⟨merged, readsInner, merges⟩ := inside.readsClean lawful (lawful.standsIn fits)
        (by omega) sameInner (.close rules Enclosure.noConfusion (depth + 1) isClose more)
      refine ⟨.expression :: items, ?_, fun raw merges => .keep merges⟩
      rw [List.cons_append, List.append_assoc]
      exact .list opens (by omega) readsInner (lawful.merges fits merges) reading
  | .call inside fits, enclosure, depth, tokens, more, items, rest, sum, same, reading => by
      obtain ⟨callee, inCall, rfl, kind, sameCall⟩ := List.map_eq_cons_iff.mp same
      obtain ⟨paren, inList, rfl, opens, sameList⟩ := List.map_eq_cons_iff.mp sameCall
      obtain ⟨inner, close, rfl, sameInner, isClose⟩ := exists_close sameList
      obtain ⟨merged, readsInner, merges⟩ := inside.readsClean lawful (lawful.standsIn fits)
        (by omega) sameInner (.close rules Enclosure.noConfusion (depth + 1) isClose more)
      refine ⟨.expression :: items, ?_, fun raw merges => .keep merges⟩
      rw [List.cons_append, List.cons_append, List.append_assoc]
      exact .call kind opens (by omega) readsInner (lawful.merges fits merges) reading

/-- Items can be put in front of what is read clean, where they may stand. -/
theorem Items.readsClean (lawful : rules.Lawful) {room : Nat} {items : List Item}
    {kinds : List TokenKind} :
    Items rules room items kinds → ∀ {enclosure depth tokens more rest},
      (∀ item ∈ items, item.StandsIn enclosure) → depth + room = maxDepth →
        tokens.map Token.kind = kinds → ReadsClean rules enclosure depth more [] rest →
          ∃ merged, ReadsClean rules enclosure depth (tokens ++ more) merged rest ∧
            Merges items merged
  | .nil, enclosure, depth, tokens, more, rest, _, _, same, reading => by
      rw [List.map_eq_nil_iff.mp same]
      exact ⟨[], reading, .nil⟩
  | .expression isExpression others, enclosure, depth, tokens, more, rest, standIn, sum, same,
      reading => by
      obtain ⟨first, behind, rfl, sameFirst, sameBehind⟩ := List.map_eq_append_iff.mp same
      obtain ⟨merged, readsOthers, merges⟩ := others.readsClean lawful
        (fun item member => standIn item (List.mem_cons_of_mem _ member)) sum sameBehind reading
      obtain ⟨all, readsAll, mergesAll⟩ := isExpression.readsClean lawful sum sameFirst readsOthers
      rw [List.append_assoc]
      exact ⟨all, readsAll, mergesAll _ merges⟩
  | .comma others, enclosure, depth, tokens, more, rest, standIn, sum, same, reading => by
      obtain ⟨comma, behind, rfl, kind, sameBehind⟩ := List.map_eq_cons_iff.mp same
      obtain ⟨merged, readsOthers, merges⟩ := others.readsClean lawful
        (fun item member => standIn item (List.mem_cons_of_mem _ member)) sum sameBehind reading
      have arguments : enclosure = .arguments := standIn .comma List.mem_cons_self
      refine ⟨.comma :: merged, ?_, .keep merges⟩
      exact .leaf (by rw [kind, role, if_pos arguments]) Kind.noConfusion
        (by simp [Node.item?, kind]) readsOthers
  | .semicolon others, enclosure, depth, tokens, more, rest, standIn, sum, same, reading => by
      obtain ⟨semicolon, behind, rfl, kind, sameBehind⟩ := List.map_eq_cons_iff.mp same
      obtain ⟨merged, readsOthers, merges⟩ := others.readsClean lawful
        (fun item member => standIn item (List.mem_cons_of_mem _ member)) sum sameBehind reading
      have document : enclosure = .document := standIn .semicolon List.mem_cons_self
      refine ⟨.semicolon :: merged, ?_, .keep merges⟩
      exact .leaf (by rw [kind, role, if_pos document]) Kind.noConfusion
        (by simp [Node.item?, kind]) readsOthers

end

/-- Tokens are a script exactly when they are read clean and what stands at the top fits
the rules. -/
theorem program_iff (lawful : rules.Lawful) (tokens : List Token) :
    Program rules (tokens.map Token.kind) ↔
      Clean rules .document (ofTokens tokens) ∧
        rules .document ((ofTokens tokens).filterMap Node.item?) := by
  constructor
  · rintro ⟨items, derived, fits⟩
    obtain ⟨merged, ⟨nodes, reads, clean, rfl⟩, merges⟩ := derived.readsClean lawful
      (lawful.standsIn fits) (Nat.zero_add _) rfl (.nil rules 0)
    rw [List.append_nil] at reads
    have same : ofTokens tokens = nodes := reads.read_eq.1
    rw [same]
    exact ⟨clean, lawful.merges fits merges⟩
  · rintro ⟨clean, fits⟩
    have reads := reads_read .document 0 tokens
    obtain ⟨body, same, derived⟩ := reads.exists_items clean
    rw [reads.rest_eq_nil, ending, List.map_nil, List.append_nil] at same
    rw [same]
    exact ⟨_, derived, fits⟩

end Grammar

end SetScript
