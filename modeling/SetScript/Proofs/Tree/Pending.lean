import SetScript.Proofs.Binding.Site
import SetScript.Proofs.Tree.Nesting
import SetScript.Proofs.Tree.Order
import SetScript.Proofs.Tree.Statement

/-!
# Lists that are left open

A list without closing parenthesis reaches up to the end of its statement, and all lists around it
do so, too.  How many lists are left open can be told by counting parentheses over the tokens of
the statement.

The count is followed through a reading: where the closing parenthesis of a list is read, nothing
inside of it was left open and one list less is open; where none is read, the tokens of the
statement are used up and the lists left open are those that the count adds.
-/

namespace SetScript

namespace Token

/-- The number of open lists behind some tokens. -/
def openAfter (depth : Nat) (tokens : List Token) : Nat :=
  tokens.foldl (fun depth token => Binding.nest depth token.kind) depth

theorem openAfter_cons (depth : Nat) (token : Token) (tokens : List Token) :
    openAfter depth (token :: tokens) = openAfter (Binding.nest depth token.kind) tokens :=
  rfl

/-- The tokens of the statements, without the semicolons between them. -/
def statements (tokens : List Token) : List (List Token) :=
  tokens.splitOnP (·.kind == .semicolon)

/-- Tokens of a single statement. -/
def IsStatement (tokens : List Token) : Prop :=
  ∀ token ∈ tokens, token.kind ≠ .semicolon

theorem IsStatement.suffix {tokens later : List Token} (single : IsStatement tokens)
    (isLater : later <:+ tokens) : IsStatement later :=
  fun token member => single token (isLater.subset member)

theorem statements_of_isStatement {tokens : List Token} (single : IsStatement tokens) :
    statements tokens = [tokens] := by
  apply List.splitOnP_eq_singleton
  intro token member
  rw [beq_eq_false_iff_ne]
  exact single token member

theorem statements_append {first : List Token} (single : IsStatement first) {semicolon : Token}
    (isSemicolon : semicolon.kind = .semicolon) (rest : List Token) :
    statements (first ++ semicolon :: rest) = first :: statements rest := by
  have split := List.splitOnP_append_cons (p := (·.kind == .semicolon)) first rest
    (beq_iff_eq.mpr isSemicolon)
  rw [statements, split, ← statements, statements_of_isStatement single, List.singleton_append,
    ← statements]

/-- Induction over the statements of some tokens. -/
theorem statement_induction {motive : List Token → Prop}
    (single : ∀ tokens, IsStatement tokens → motive tokens)
    (append : ∀ first semicolon rest, IsStatement first → semicolon.kind = .semicolon →
      motive rest → motive (first ++ semicolon :: rest))
    (tokens : List Token) : motive tokens := by
  have cut (rest : List Token) : ∀ first, IsStatement first → motive (first ++ rest) := by
    induction rest with
    | nil =>
        intro first isFirst
        rw [List.append_nil]
        exact single first isFirst
    | cons token rest ih =>
        intro first isFirst
        by_cases isSemicolon : token.kind = .semicolon
        · apply append first token rest isFirst isSemicolon
          exact ih [] (by simp [IsStatement])
        · rw [List.append_cons]
          apply ih
          intro other member
          rcases List.mem_append.mp member with earlier | same
          · exact isFirst other earlier
          · rw [List.mem_singleton.mp same]
            exact isSemicolon
  exact cut tokens [] (by simp [IsStatement])

/-- The statements hold all tokens but the semicolons. -/
theorem flatten_statements (tokens : List Token) :
    (statements tokens).flatten = tokens.filter (·.kind != .semicolon) := by
  have kept {first : List Token} (single : IsStatement first) :
      first.filter (·.kind != .semicolon) = first := by
    rw [List.filter_eq_self]
    intro token member
    rw [bne_iff_ne]
    exact single token member
  induction tokens using statement_induction with
  | single tokens isStatement =>
      rw [statements_of_isStatement isStatement, List.flatten_singleton, kept isStatement]
  | append first semicolon rest isFirst isSemicolon ih =>
      rw [statements_append isFirst isSemicolon, List.flatten_cons, ih, List.filter_append,
        kept isFirst, List.filter_cons_of_neg (by simp [isSemicolon])]

theorem isStatement_of_mem_statements {tokens statement : List Token}
    (member : statement ∈ statements tokens) : IsStatement statement := by
  intro token isToken
  have kept := List.mem_flatten.mpr ⟨statement, member, isToken⟩
  rw [flatten_statements, List.mem_filter, bne_iff_ne] at kept
  exact kept.2

end Token

namespace Node

instance : DecidablePred IsClose := fun node =>
  decidable_of_iff (node.kind = .punctuation ∧ ∃ token ∈ node.token?, token.kind = .closeParen)
    (by cases node <;> simp [IsClose, token?, kind])

instance (nodes : List Node) : Decidable (Closes nodes) :=
  Option.decidableExistsMem nodes.getLast?

/-- The lists of a forest without closing parenthesis, in document order. -/
def pending (nodes : List Node) : List Node :=
  (traverse nodes).filter fun node => node.kind.isList = true ∧ ¬ Closes node.children

@[simp]
theorem pending_nil : pending [] = [] := by
  rw [pending, traverse_nil, List.filter_nil]

theorem pending_append (first second : List Node) :
    pending (first ++ second) = pending first ++ pending second := by
  rw [pending, traverse_append, List.filter_append, ← pending, ← pending]

theorem pending_cons (node : Node) (nodes : List Node) :
    pending (node :: nodes) =
      (if node.kind.isList = true ∧ ¬ Closes node.children then [node] else []) ++
        (pending node.children ++ pending nodes) := by
  rw [pending, traverse_cons, List.filter_cons, List.filter_append, ← pending, ← pending]
  simp only [decide_eq_true_eq]
  split <;> rfl

theorem pending_leaf_cons {kind : Kind} (noList : kind.isList = false) (token : Token)
    (nodes : List Node) : pending (leaf kind token :: nodes) = pending nodes := by
  rw [pending_cons, kind_leaf, noList]
  simp [children]

/-- A list is left open when nothing closes its body. -/
theorem pending_list_cons {kind : Kind} (isList : kind.isList = true) {paren : Token}
    (opens : paren.kind = .openParen) (body nodes : List Node) :
    pending (enclose kind (leaf .punctuation paren) body :: nodes) =
      (if Closes body then [] else [enclose kind (leaf .punctuation paren) body]) ++
        (pending body ++ pending nodes) := by
  have notClose : ¬ (leaf .punctuation paren).IsClose :=
    not_isClose_leaf (by rw [opens]; exact TokenKind.noConfusion)
  have sameCloses := closes_cons_iff notClose body
  rw [pending_cons, children_enclose, kind_enclose, pending_leaf_cons rfl]
  by_cases closes : Closes body <;> simp [isList, sameCloses, closes]

/-- What is left open in a call is left open in its arguments. -/
theorem pending_call_cons (callee : Token) (list : Node) (nodes : List Node) :
    pending (enclose .call (leaf .identifier callee) [list] :: nodes) =
      pending (list :: nodes) := by
  rw [pending_cons, children_enclose, kind_enclose, if_neg (by rintro ⟨isList, -⟩; cases isList),
    List.nil_append, pending_leaf_cons rfl, ← pending_append, List.singleton_append]

end Node

namespace Forest

open Node Token Binding

/-- What reading a part of a statement leaves open, where some lists were open before. -/
structure Settles (depth : Nat) (tokens rest : List Token) (nodes : List Node) : Prop where
  /-- A list that is closed has nothing open inside, and is open no longer. -/
  closed : Closes nodes → pending nodes = [] ∧ openAfter depth tokens = openAfter (depth - 1) rest
  /-- Without closing parenthesis all tokens are read, and the lists that are left open reach up to
  the last of them. -/
  left : ¬ Closes nodes → rest = [] ∧ openAfter depth tokens = depth + (pending nodes).length ∧
    ∀ list ∈ pending nodes, list.leaves <:+ tokens

namespace Settles

variable {depth : Nat} {tokens rest later : List Token} {nodes body : List Node}

theorem nil (depth : Nat) : Settles depth [] [] [] where
  closed closes := by
    rcases closes with ⟨last, isLast, -⟩
    cases isLast
  left _ := ⟨rfl, by rw [pending_nil]; rfl, by simp⟩

theorem close {token : Token} (isClose : token.kind = .closeParen) (depth : Nat)
    (tokens : List Token) : Settles depth (token :: tokens) tokens [.leaf .punctuation token] where
  closed _ := by
    rw [pending_leaf_cons rfl, openAfter_cons, isClose]
    exact ⟨pending_nil, rfl⟩
  left notClosed := by
    exfalso
    apply notClosed
    exact ⟨_, rfl, token, rfl, isClose⟩

/-- A token that is passed neither closes nor opens a list. -/
theorem pass {token : Token} {others : List Node} (settles : Settles depth tokens rest nodes)
    (same : nest depth token.kind = depth) (sameCloses : Closes others ↔ Closes nodes)
    (samePending : pending others = pending nodes) :
    Settles depth (token :: tokens) rest others where
  closed closes := by
    rw [samePending, openAfter_cons, same]
    exact settles.closed (sameCloses.mp closes)
  left notClosed := by
    rcases settles.left (mt sameCloses.mpr notClosed) with ⟨done, count, reach⟩
    rw [samePending, openAfter_cons, same]
    exact ⟨done, count, fun list isPending => (reach list isPending).trans (List.suffix_cons _ _)⟩

/-- A list settles what follows it when it is closed, and else reaches up to the end itself. -/
theorem list {kind : Kind} (isList : kind.isList = true) {paren : Token}
    (opens : paren.kind = .openParen) (room : depth < maxDepth)
    (inner : Settles (depth + 1) tokens later body) (kept : body.flatMap leaves ++ later = tokens)
    (others : Settles depth later rest nodes) (ends : later = [] → nodes = [] ∧ rest = []) :
    Settles depth (paren :: tokens) rest
      (enclose kind (.leaf .punctuation paren) body :: nodes) := by
  have opened : openAfter depth (paren :: tokens) = openAfter (depth + 1) tokens := by
    rw [openAfter_cons, opens, nest, if_neg (Nat.ne_of_lt room)]
  have sameCloses :=
    closes_cons_iff (not_isClose_enclose kind (.leaf .punctuation paren) body) nodes
  have pendingList := pending_list_cons isList opens body nodes
  by_cases closes : Closes body
  · rcases inner.closed closes with ⟨nothing, count⟩
    rw [if_pos closes, nothing, List.nil_append, List.nil_append] at pendingList
    rw [Nat.add_sub_cancel] at count
    constructor
    · intro closed
      rw [pendingList, opened, count]
      exact others.closed (sameCloses.mp closed)
    · intro notClosed
      rcases others.left (mt sameCloses.mpr notClosed) with ⟨done, added, reach⟩
      have laterSuffix : later <:+ paren :: tokens := by
        rw [← kept]
        exact (List.suffix_append _ _).trans (List.suffix_cons _ _)
      rw [pendingList, opened, count]
      exact ⟨done, added, fun list isPending => (reach list isPending).trans laterSuffix⟩
  · rcases inner.left closes with ⟨rfl, count, reach⟩
    rcases ends rfl with ⟨rfl, rfl⟩
    rw [if_neg closes, pending_nil, List.append_nil, List.singleton_append] at pendingList
    constructor
    · intro closed
      rcases sameCloses.mp closed with ⟨last, isLast, -⟩
      cases isLast
    · intro _
      rw [pendingList, opened, count, List.length_cons, List.forall_mem_cons]
      refine ⟨rfl, by omega, ?_, ?_⟩
      · rw [leaves_enclose, List.flatMap_cons, leaves_leaf, ← kept, List.append_nil]
        exact List.suffix_refl _
      · exact fun list isPending => (reach list isPending).trans (List.suffix_cons _ _)

end Settles

/-- There is nothing to read without tokens. -/
theorem Reads.eq_nil {enclosure : Enclosure} {depth : Nat} {rest : List Token} {nodes : List Node}
    (reads : Reads enclosure depth [] nodes rest) : nodes = [] ∧ rest = [] := by
  cases reads
  exact ⟨rfl, rfl⟩

/-- Reading settles the lists of a statement. -/
theorem Reads.settles {enclosure : Enclosure} {depth : Nat} {tokens rest : List Token}
    {nodes : List Node} (reads : Reads enclosure depth tokens nodes rest)
    (bounded : depth ≤ maxDepth) (flat : enclosure = .document → depth = 0)
    (single : IsStatement tokens) : Settles depth tokens rest nodes := by
  induction reads with
  | done => exact .nil _
  | leaf isLeaf others ih =>
      have settles := ih bounded flat (single.suffix (List.suffix_cons _ _))
      have noList := Kind.enclosure?_of_fits (fits_of_role_eq_leaf isLeaf)
      apply settles.pass (nest_of_role_eq_leaf bounded flat isLeaf)
      · exact closes_cons_iff (not_isClose_of_role isLeaf) _
      · exact pending_leaf_cons (by rw [Kind.isList, noList]; rfl) _ _
  | close kind inside => exact .close kind _ _
  | stop kind inside => exact absurd kind (single _ List.mem_cons_self)
  | list kind room inner others innerIh ih =>
      have kept := inner.flatMap_leaves
      have singleInner := single.suffix (List.suffix_cons _ _)
      have singleLater := singleInner.suffix ⟨_, kept⟩
      apply Settles.list rfl kind room (innerIh room Enclosure.noConfusion singleInner) kept
        (ih bounded flat singleLater)
      rintro rfl
      exact others.eq_nil
  | @call enclosure depth callee paren tokens later rest body nodes kind opens room inner others
      innerIh ih =>
      have kept := inner.flatMap_leaves
      have singleInner := (single.suffix (List.suffix_cons _ _)).suffix (List.suffix_cons _ _)
      have singleLater := singleInner.suffix ⟨_, kept⟩
      have arguments : Settles depth (paren :: tokens) rest
          (enclose .arguments (.leaf .punctuation paren) body :: nodes) := by
        apply Settles.list rfl opens room (innerIh room Enclosure.noConfusion singleInner) kept
          (ih bounded flat singleLater)
        rintro rfl
        exact others.eq_nil
      apply arguments.pass (by rw [kind]; rfl)
      · rw [closes_cons_iff (not_isClose_enclose _ _ _),
          closes_cons_iff (not_isClose_enclose _ _ _)]
      · exact pending_call_cons callee _ nodes

/-- Nothing closes a document. -/
theorem Reads.not_closes {depth : Nat} {tokens rest : List Token} {nodes : List Node}
    (reads : Reads .document depth tokens nodes rest) : ¬ Closes nodes := by
  generalize equal : Enclosure.document = enclosure at reads
  induction reads with
  | done =>
      rintro ⟨last, isLast, -⟩
      cases isLast
  | leaf isLeaf others ih =>
      rw [closes_cons_iff (not_isClose_of_role isLeaf)]
      exact ih equal
  | close kind inside => exact absurd equal.symm inside
  | stop kind inside => exact absurd equal.symm inside
  | list kind room inner others innerIh ih =>
      rw [closes_cons_iff (not_isClose_enclose _ _ _)]
      exact ih equal
  | call kind opens room inner others innerIh ih =>
      rw [closes_cons_iff (not_isClose_enclose _ _ _)]
      exact ih equal

/-- The lists that a statement leaves open are counted by its parentheses. -/
theorem length_pending_ofTokens {tokens : List Token} (single : IsStatement tokens) :
    (pending (ofTokens tokens)).length = openAfter 0 tokens := by
  have reads := reads_read .document 0 tokens
  have settles := reads.settles (Nat.zero_le _) (fun _ => rfl) single
  rw [(settles.left reads.not_closes).2.1, Nat.zero_add, ofTokens]

/-- The lists that a statement leaves open end where its last token ends. -/
theorem exists_stop_eq_of_mem_pending {tokens : List Token} (single : IsStatement tokens)
    {list : Node} (isPending : list ∈ pending (ofTokens tokens)) :
    ∃ last, tokens.getLast? = some last ∧ list.span.stop = last.span.stop := by
  have reads := reads_read .document 0 tokens
  have settles := reads.settles (Nat.zero_le _) (fun _ => rfl) single
  have member := List.mem_of_mem_filter isPending
  have formed : ∀ inner ∈ traverse [list], inner.Formed := by
    intro inner found
    rw [traverse_cons, traverse_nil, List.append_nil] at found
    rcases List.mem_cons.mp found with rfl | below
    · exact reads.formed inner member
    · exact reads.formed inner (traverse_children_subset member below)
  rcases span_eq_of_formed formed with ⟨first, last, -, isLast, span⟩
  rcases (settles.left reads.not_closes).2.2 list isPending with ⟨before, whole⟩
  refine ⟨last, ?_, by rw [span]⟩
  rw [← whole, List.getLast?_append, isLast, Option.some_or]

/-- Each statement leaves its own lists open. -/
theorem pending_ofTokens (tokens : List Token) :
    pending (ofTokens tokens) =
      (statements tokens).flatMap fun statement => pending (ofTokens statement) := by
  induction tokens using statement_induction with
  | single tokens isStatement =>
      rw [statements_of_isStatement isStatement, List.flatMap_singleton]
  | append first semicolon rest isFirst isSemicolon ih =>
      rw [statements_append isFirst isSemicolon, List.flatMap_cons, ← ih,
        ofTokens_append_semicolon first rest isSemicolon, pending_append, pending_leaf_cons rfl]

end Forest

end SetScript
