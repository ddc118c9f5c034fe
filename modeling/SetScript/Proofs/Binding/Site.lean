import SetScript.Binding
import SetScript.Proofs.Tree.Reading

/-!
# Sites

A site is a call whose first argument is a string literal: its callee and that
literal.  Everything that is looked up in a tree depends on its sites alone.

The sites of a tree can be read off its tokens without any tree: a site is an
identifier, an opening parenthesis and a string one after another, where fewer than
`maxDepth` lists are open.  How many lists are open is counted token by token, and
no recovery of the reader disturbs the count.
-/

namespace SetScript.Binding

open Forest

/-- The callee and the first argument of a call that starts with a string literal. -/
structure Site where
  callee : Token
  literal : Token
deriving DecidableEq

/-- Whether a site calls a callee with a name as its first argument. -/
def Site.binds (callee name : String) (site : Site) : Bool :=
  site.callee.text == callee && site.literal.text == name

/-! ## Sites of nodes -/

/-- The token that names what a call calls. -/
def calleeToken? (node : Node) : Option Token :=
  if node.kind = .call then
    ((node.namedChild? 0).filter (·.kind == .identifier)).bind Node.token?
  else
    none

/-- The token of the string literal that is the first argument of a call. -/
def literalToken? (node : Node) : Option Token :=
  (firstString? node).bind Node.token?

/-- The site of a call. -/
def site? (node : Node) : Option Site :=
  (calleeToken? node).bind fun callee => (literalToken? node).map fun literal => ⟨callee, literal⟩

/-- Only calls have callees. -/
theorem kind_of_calleeName?_eq_some {node : Node} {name : String}
    (callee : calleeName? node = some name) : node.kind = .call := by
  by_contra notCall
  rw [calleeName?, if_neg notCall] at callee
  cases callee

theorem calleeName?_eq (node : Node) : calleeName? node = (calleeToken? node).map Token.text := by
  rw [calleeName?, calleeToken?]
  split
  · rw [Option.map_bind]
    exact Option.bind_congr fun inner _ => inner.literal?_eq
  · rfl

theorem boundName?_eq (node : Node) : boundName? node = (literalToken? node).map Token.text := by
  rw [boundName?, literalToken?, Option.map_bind]
  exact Option.bind_congr fun inner _ => inner.literal?_eq

/-- What a rule asks of a call, it asks of its site. -/
theorem binds_eq (rule : Rule) (name : String) (node : Node) :
    rule.binds name node = (site? node).any (Site.binds rule.callee name) := by
  rw [Rule.binds, calleeName?_eq, boundName?_eq, site?]
  cases calleeToken? node <;> cases literalToken? node <;> simp [Site.binds]

/-- The first argument of a call is below it. -/
theorem mem_of_firstArgument?_eq_some {call argument : Node}
    (found : firstArgument? call = some argument) : argument ∈ call.descendants := by
  obtain ⟨list, isList, found⟩ := Option.bind_eq_some_iff.mp found
  obtain ⟨opening, -, found⟩ := Option.bind_eq_some_iff.mp found
  rw [argumentList?] at isList
  split at isList
  · split at found
    · cases found
    · obtain ⟨listed, -⟩ := Option.filter_eq_some_iff.mp isList
      obtain ⟨first, -⟩ := Option.filter_eq_some_iff.mp found
      have listMember := List.mem_of_mem_filter (List.mem_of_getElem? listed)
      have inList := Node.mem_traverse_of_mem (List.mem_of_getElem? first)
      exact Node.mem_traverse_iff.mpr ⟨list, listMember, Or.inr inList⟩
  · cases isList

/-- The string literal that is the first argument of a call holds a token of the document. -/
theorem exists_token_of_firstString? {source : String} {call literal : Node}
    (member : call ∈ (SyntaxTree.parse source).root.descendants)
    (found : firstString? call = some literal) :
    ∃ token ∈ Token.scan source.toList, token.kind = .string ∧ literal = .leaf .string token := by
  obtain ⟨argument, string⟩ := Option.filter_eq_some_iff.mp found
  have below := Node.traverse_children_subset member (mem_of_firstArgument?_eq_some argument)
  exact SyntaxTree.exists_token_of_kind_eq_string below (beq_iff_eq.mp string)

theorem site?_leaf (kind : Kind) (token : Token) : site? (.leaf kind token) = none := by
  simp [site?, calleeToken?, Node.namedChild?, Node.namedChildren, Node.children]

theorem site?_enclose_of_ne {kind : Kind} (notCall : kind ≠ .call) (first : Node)
    (others : List Node) : site? (.enclose kind first others) = none := by
  simp [site?, calleeToken?, notCall]

section Call

variable (callee paren : Token) (body : List Node)

/-- The call of a callee with some arguments. -/
abbrev callNode : Node :=
  .enclose .call (.leaf .identifier callee) [.enclose .arguments (.leaf .punctuation paren) body]

theorem calleeToken?_callNode : calleeToken? (callNode callee paren body) = some callee :=
  rfl

theorem firstArgument?_callNode :
    firstArgument? (callNode callee paren body) = body.head?.filter Node.isNamed := by
  rw [List.head?_eq_getElem?]
  rfl

theorem firstString?_callNode :
    firstString? (callNode callee paren body) = body.head?.filter (·.kind == .string) := by
  rw [firstString?, firstArgument?_callNode, Option.filter_filter]
  congr 1
  funext node
  by_cases string : node.kind = .string
  · simp [Node.isNamed, string, Kind.isNamed]
  · simp [string]

theorem site?_callNode :
    site? (callNode callee paren body) =
      ((body.head?.filter (·.kind == .string)).bind Node.token?).map fun literal =>
        ⟨callee, literal⟩ := by
  rw [site?, calleeToken?_callNode, Option.bind_some, literalToken?, firstString?_callNode]

end Call

/-! ## Sites of tokens -/

/-- The number of open lists after one more token.  A semicolon closes all of them. -/
def nest (depth : Nat) : TokenKind → Nat
  | .openParen => if depth = maxDepth then depth else depth + 1
  | .closeParen => depth - 1
  | .semicolon => 0
  | _ => depth

theorem nest_identifier (depth : Nat) : nest depth .identifier = depth :=
  rfl

/-- The site at the front of some tokens, where some lists are open. -/
def siteAt? (depth : Nat) : List Token → Option Site
  | callee :: paren :: literal :: _ =>
      if callee.kind = .identifier ∧ paren.kind = .openParen ∧ literal.kind = .string ∧
          depth < maxDepth then
        some ⟨callee, literal⟩
      else
        none
  | _ => none

/-- The sites of some tokens, where some lists are open in front of them. -/
def sitesFrom (depth : Nat) : List Token → List Site
  | [] => []
  | token :: tokens =>
      (siteAt? depth (token :: tokens)).toList ++ sitesFrom (nest depth token.kind) tokens

theorem siteAt?_eq_none_of_ne {depth : Nat} {token : Token} (notCallee : token.kind ≠ .identifier)
    (tokens : List Token) : siteAt? depth (token :: tokens) = none := by
  rcases tokens with _ | ⟨paren, _ | ⟨literal, tokens⟩⟩ <;> simp [siteAt?, notCallee]

theorem siteAt?_eq_none_of_role {enclosure : Enclosure} {depth : Nat} {token : Token}
    {tokens : List Token} {kind : Kind}
    (isLeaf : role enclosure depth token.kind (tokens.head?.map Token.kind) = .leaf kind) :
    siteAt? depth (token :: tokens) = none := by
  by_cases callee : token.kind = .identifier
  · rcases tokens with _ | ⟨paren, _ | ⟨literal, tokens⟩⟩
    · rfl
    · rfl
    · rw [siteAt?, if_neg]
      rintro ⟨-, opens, -, room⟩
      have isCallee : role enclosure depth token.kind (some paren.kind) = .callee :=
        role_eq_callee_iff.mpr ⟨callee, congrArg some opens, room⟩
      exact Role.noConfusion (isCallee.symm.trans isLeaf)
  · exact siteAt?_eq_none_of_ne callee tokens

theorem sitesFrom_cons_of_ne {depth : Nat} {token : Token} (notCallee : token.kind ≠ .identifier)
    (tokens : List Token) :
    sitesFrom depth (token :: tokens) = sitesFrom (nest depth token.kind) tokens := by
  rw [sitesFrom, siteAt?_eq_none_of_ne notCallee]
  rfl

theorem sitesFrom_openParen {depth : Nat} {token : Token} (opens : token.kind = .openParen)
    (room : depth < maxDepth) (tokens : List Token) :
    sitesFrom depth (token :: tokens) = sitesFrom (depth + 1) tokens := by
  rw [sitesFrom_cons_of_ne (by rw [opens]; exact TokenKind.noConfusion), opens, nest,
    if_neg (Nat.ne_of_lt room)]

/-- The first string literal of a list is its first token. -/
theorem head?_string_of_reads {enclosure : Enclosure} {depth : Nat} {tokens rest : List Token}
    {nodes : List Node} (reads : Reads enclosure depth tokens nodes rest) :
    (nodes.head?.filter (·.kind == .string)).bind Node.token? =
      tokens.head?.filter (·.kind == .string) := by
  cases reads with
  | done => rfl
  | leaf isLeaf others =>
      have sameKind := Kind.eq_string_iff_of_fits (fits_of_role_eq_leaf isLeaf)
      simp only [List.head?_cons, Option.filter_some, Node.kind_leaf, beq_iff_eq, sameKind]
      split <;> rfl
  | close kind inside => simp [Option.filter_some, kind]
  | stop kind inside => simp [Option.filter_some, kind]
  | list kind room inner others => simp [Option.filter_some, kind]
  | call kind opens room inner others => simp [Option.filter_some, kind]

/-- The site of a call is the site of its tokens. -/
theorem site?_callNode_of_reads {callee paren : Token} {depth innerDepth : Nat}
    {tokens rest : List Token} {body : List Node} (identifier : callee.kind = .identifier)
    (opens : paren.kind = .openParen) (room : depth < maxDepth)
    (reads : Reads .arguments innerDepth tokens body rest) :
    site? (callNode callee paren body) = siteAt? depth (callee :: paren :: tokens) := by
  rw [site?_callNode, head?_string_of_reads reads]
  cases tokens with
  | nil => rfl
  | cons literal tokens =>
      by_cases string : literal.kind = .string
      · simp [siteAt?, Option.filter_some, identifier, opens, room, string]
      · simp [siteAt?, Option.filter_some, string]

/-- A leaf does not change the number of open lists, once these are as deep as their
enclosure says. -/
theorem nest_of_role_eq_leaf {enclosure : Enclosure} {depth : Nat} {kind : Kind}
    {tokenKind : TokenKind} {next? : Option TokenKind} (bounded : depth ≤ maxDepth)
    (flat : enclosure = .document → depth = 0)
    (isLeaf : role enclosure depth tokenKind next? = .leaf kind) :
    nest depth tokenKind = depth := by
  cases tokenKind with
  | string | number | unknown | comma | identifier => rfl
  | openParen =>
      have full : depth = maxDepth := by
        by_contra notFull
        simp [role, Nat.lt_of_le_of_ne bounded notFull] at isLeaf
      rw [nest, if_pos full]
  | closeParen =>
      by_cases document : enclosure = .document
      · rw [flat document]
        rfl
      · simp [role, document] at isLeaf
  | semicolon =>
      by_cases document : enclosure = .document
      · rw [flat document]
        rfl
      · simp [role, document] at isLeaf

/-- The sites of what is read, followed by those of the tokens left over, are the sites
of the tokens: where a list is left, one list less is open. -/
theorem filterMap_site?_traverse {enclosure : Enclosure} {depth : Nat}
    {tokens rest : List Token} {nodes : List Node}
    (reads : Reads enclosure depth tokens nodes rest) (bounded : depth ≤ maxDepth)
    (flat : enclosure = .document → depth = 0) :
    (Node.traverse nodes).filterMap site? ++ sitesFrom (depth - 1) rest =
      sitesFrom depth tokens := by
  induction reads with
  | done => simp [sitesFrom]
  | leaf isLeaf others ih =>
      rw [Node.traverse_leaf_cons, List.filterMap_cons_none (site?_leaf _ _), sitesFrom,
        siteAt?_eq_none_of_role isLeaf, nest_of_role_eq_leaf bounded flat isLeaf,
        ih bounded flat]
      rfl
  | close kind inside =>
      rw [Node.traverse_leaf_cons, List.filterMap_cons_none (site?_leaf _ _), Node.traverse_nil,
        sitesFrom_cons_of_ne (by rw [kind]; exact TokenKind.noConfusion), kind]
      rfl
  | @stop _ _ token _ kind inside =>
      have notCallee : token.kind ≠ .identifier := by
        rw [kind]
        exact TokenKind.noConfusion
      rw [Node.traverse_nil, sitesFrom_cons_of_ne notCallee, sitesFrom_cons_of_ne notCallee, kind]
      rfl
  | list kind room inner others innerIh ih =>
      have innerSites := innerIh room Enclosure.noConfusion
      rw [Nat.add_sub_cancel] at innerSites
      rw [Node.traverse_enclose_cons,
        List.filterMap_cons_none (site?_enclose_of_ne Kind.noConfusion _ _),
        Node.traverse_leaf_cons, List.cons_append, List.filterMap_cons_none (site?_leaf _ _),
        List.filterMap_append, List.append_assoc, ih bounded flat, innerSites,
        sitesFrom_openParen kind room]
  | @call enclosure depth callee paren tokens later rest body nodes kind opens room inner others
      innerIh ih =>
      have innerSites := innerIh room Enclosure.noConfusion
      rw [Nat.add_sub_cancel] at innerSites
      have below : Node.traverse (callNode callee paren body :: nodes) =
          callNode callee paren body :: .leaf .identifier callee ::
            .enclose .arguments (.leaf .punctuation paren) body ::
              .leaf .punctuation paren :: (Node.traverse body ++ Node.traverse nodes) := by
        simp
      rw [below, List.filterMap_cons, site?_callNode_of_reads kind opens room inner,
        List.filterMap_cons_none (site?_leaf _ _),
        List.filterMap_cons_none (site?_enclose_of_ne Kind.noConfusion _ _),
        List.filterMap_cons_none (site?_leaf _ _), List.filterMap_append, sitesFrom, kind,
        nest_identifier, sitesFrom_openParen opens room, ← innerSites, ← ih bounded flat]
      cases siteAt? depth (callee :: paren :: tokens) <;> simp

/-- The sites of a document can be read off its tokens. -/
theorem filterMap_site?_descendants (source : String) :
    (SyntaxTree.parse source).root.descendants.filterMap site? =
      sitesFrom 0 (Token.scan source.toList) := by
  have reads := reads_read .document 0 (Token.scan source.toList)
  have sites := filterMap_site?_traverse reads (Nat.zero_le _) fun _ => rfl
  rw [reads.rest_eq_nil, sitesFrom, List.append_nil] at sites
  exact sites

end SetScript.Binding
