import SetScript.Proofs.Grammar.Rules
import SetScript.Proofs.Tree.Reading

/-!
# Clean readings

Reading never fails: what does not belong to a script becomes error leaves and lists that
are not closed.  A reading is clean when it has none of either, and the items of every
list fit the rules of a grammar.

Whether a reading is clean can be told node by node.  There is one equivalence for each
thing that reading makes: a leaf, a list and a call.
-/

namespace SetScript

open Grammar

/-- What encloses the children of a list of some kind. -/
def Kind.enclosure? : Kind → Option Enclosure
  | .parenthesized => some .parentheses
  | .arguments => some .arguments
  | _ => none

theorem Kind.enclosure?_of_fits {kind : Kind} {tokenKind : TokenKind}
    (fits : kind.fits tokenKind = true) : kind.enclosure? = none := by
  cases kind with
  | parenthesized | arguments => cases fits
  | _ => rfl

namespace Node

/-- What a node is among the children of its parent.  The parentheses of a list are not
among its items. -/
def item? : Node → Option Item
  | leaf .punctuation token =>
      match token.kind with
      | .comma => some .comma
      | .semicolon => some .semicolon
      | _ => none
  | _ => some .expression

/-- The items that the children of a node are. -/
def items (node : Node) : List Item :=
  node.children.filterMap item?

/-- A node is a closing parenthesis. -/
def IsClose (node : Node) : Prop :=
  ∃ token, node = leaf .punctuation token ∧ token.kind = .closeParen

/-- The last of some nodes is a closing parenthesis. -/
def Closes (nodes : List Node) : Prop :=
  ∃ last ∈ nodes.getLast?, last.IsClose

/-- If a node is a list, its items fit the rules. -/
def Fits (rules : Rules) (node : Node) : Prop :=
  ∀ enclosure, node.kind.enclosure? = some enclosure → rules enclosure node.items

/-- A node is no error, and if it is a list, it is closed and its items fit the rules. -/
structure Tidy (rules : Rules) (node : Node) : Prop where
  notError : node.kind ≠ .error
  closes : node.kind.enclosure? ≠ none → Closes node.children
  fits : node.Fits rules

variable {rules : Rules} {kind : Kind} {token : Token} {enclosure : Enclosure}

theorem not_isClose_leaf (notClose : token.kind ≠ .closeParen) :
    ¬ (leaf kind token).IsClose := by
  rintro ⟨other, same, isClose⟩
  cases same
  exact notClose isClose

theorem not_isClose_enclose (kind : Kind) (first : Node) (others : List Node) :
    ¬ (enclose kind first others).IsClose := by
  rintro ⟨token, same, -⟩
  cases same

theorem closes_cons_iff {node : Node} (notClose : ¬ node.IsClose) (nodes : List Node) :
    Closes (node :: nodes) ↔ Closes nodes := by
  cases nodes with
  | nil =>
      constructor
      · rintro ⟨last, isLast, isClose⟩
        cases isLast
        exact absurd isClose notClose
      · rintro ⟨last, isLast, -⟩
        cases isLast
  | cons next others => rw [Closes, List.getLast?_cons_cons, ← Closes]

theorem item?_openParen (opens : token.kind = .openParen) :
    item? (leaf .punctuation token) = none := by
  simp [item?, opens]

@[simp]
theorem item?_enclose (kind : Kind) (first : Node) (others : List Node) :
    item? (enclose kind first others) = some .expression :=
  rfl

theorem fits_of_enclosure?_eq_none {node : Node} (noList : node.kind.enclosure? = none) :
    node.Fits rules := by
  intro enclosure isList
  cases noList.symm.trans isList

theorem tidy_of_enclosure?_eq_none {node : Node} (noList : node.kind.enclosure? = none)
    (notError : node.kind ≠ .error) : node.Tidy rules :=
  ⟨notError, fun isList => absurd noList isList, fits_of_enclosure?_eq_none noList⟩

/-- A leaf that holds a fitting token is tidy unless it is an error. -/
theorem tidy_leaf_iff (fits : kind.fits token.kind = true) :
    (leaf kind token).Tidy rules ↔ kind ≠ .error := by
  have noList : (leaf kind token).kind.enclosure? = none := Kind.enclosure?_of_fits fits
  exact ⟨Tidy.notError, tidy_of_enclosure?_eq_none noList⟩

theorem items_enclose (opens : token.kind = .openParen) (kind : Kind) (body : List Node) :
    (enclose kind (leaf .punctuation token) body).items = body.filterMap item? :=
  List.filterMap_cons_none (item?_openParen opens)

theorem tidy_list_iff (isList : kind.enclosure? = some enclosure)
    (opens : token.kind = .openParen) (body : List Node) :
    (enclose kind (leaf .punctuation token) body).Tidy rules ↔
      Closes body ∧ rules enclosure (body.filterMap item?) := by
  have someList : kind.enclosure? ≠ none := by
    rw [isList]
    exact Option.some_ne_none enclosure
  have notClose : ¬ (leaf .punctuation token).IsClose :=
    not_isClose_leaf (by rw [opens]; exact TokenKind.noConfusion)
  rw [← items_enclose opens kind body, ← closes_cons_iff notClose body]
  constructor
  · intro tidy
    exact ⟨tidy.closes someList, tidy.fits enclosure isList⟩
  · rintro ⟨closes, fits⟩
    refine ⟨?_, fun _ => closes, ?_⟩
    · rintro rfl
      cases isList
    · intro other otherList
      cases isList.symm.trans otherList
      exact fits

end Node

namespace Forest

open Node

/-- All nodes that were read are tidy, and a list is closed. -/
structure Clean (rules : Rules) (enclosure : Enclosure) (nodes : List Node) : Prop where
  tidy : ∀ node ∈ traverse nodes, node.Tidy rules
  closes : enclosure ≠ .document → Closes nodes

section Clean

variable {rules : Rules} {enclosure inner : Enclosure} {depth : Nat} {kind : Kind}
  {token paren : Token} {nodes body : List Node}

theorem clean_nil (rules : Rules) : Clean rules .document [] :=
  ⟨by simp, fun inside => absurd rfl inside⟩

theorem clean_close (rules : Rules) (enclosure : Enclosure) (isClose : token.kind = .closeParen) :
    Clean rules enclosure [.leaf .punctuation token] where
  tidy := by
    rw [traverse_leaf_cons, traverse_nil, List.forall_mem_singleton,
      tidy_leaf_iff (by rw [isClose]; rfl)]
    exact Kind.noConfusion
  closes _ := ⟨_, rfl, token, rfl, isClose⟩

/-- A closing parenthesis never becomes a leaf like others: it closes a list or is an
error. -/
theorem not_isClose_of_role {next? : Option TokenKind}
    (isLeaf : role enclosure depth token.kind next? = .leaf kind) :
    ¬ (Node.leaf kind token).IsClose := by
  rintro ⟨other, same, isClose⟩
  cases same
  rw [isClose, role] at isLeaf
  split_ifs at isLeaf
  cases isLeaf

theorem clean_leaf_cons_iff {next? : Option TokenKind}
    (isLeaf : role enclosure depth token.kind next? = .leaf kind) (nodes : List Node) :
    Clean rules enclosure (.leaf kind token :: nodes) ↔
      kind ≠ .error ∧ Clean rules enclosure nodes := by
  have tidyLeaf : (Node.leaf kind token).Tidy rules ↔ kind ≠ .error :=
    tidy_leaf_iff (fits_of_role_eq_leaf isLeaf)
  have closes := closes_cons_iff (not_isClose_of_role isLeaf) nodes
  constructor
  · rintro ⟨tidy, isClosed⟩
    rw [traverse_leaf_cons, List.forall_mem_cons] at tidy
    exact ⟨tidyLeaf.mp tidy.1, tidy.2, fun inside => closes.mp (isClosed inside)⟩
  · rintro ⟨notError, tidy, isClosed⟩
    refine ⟨?_, fun inside => closes.mpr (isClosed inside)⟩
    rw [traverse_leaf_cons, List.forall_mem_cons]
    exact ⟨tidyLeaf.mpr notError, tidy⟩

/-- A list is read clean when its body is and fits the rules. -/
theorem clean_list_cons_iff (isList : kind.enclosure? = some inner)
    (opens : paren.kind = .openParen) (body nodes : List Node) :
    Clean rules enclosure (.enclose kind (.leaf .punctuation paren) body :: nodes) ↔
      (Clean rules inner body ∧ rules inner (body.filterMap item?)) ∧
        Clean rules enclosure nodes := by
  have inside : inner ≠ .document := by
    rintro rfl
    cases kind <;> cases isList
  have tidyParen : (Node.leaf .punctuation paren).Tidy rules :=
    (tidy_leaf_iff (by rw [opens]; rfl)).mpr Kind.noConfusion
  have closes := closes_cons_iff (not_isClose_enclose kind (.leaf .punctuation paren) body) nodes
  constructor
  · rintro ⟨tidy, isClosed⟩
    rw [traverse_enclose_cons, traverse_leaf_cons, List.cons_append, List.forall_mem_cons,
      List.forall_mem_cons, List.forall_mem_append] at tidy
    obtain ⟨tidyList, -, tidyBody, tidyNodes⟩ := tidy
    obtain ⟨bodyCloses, fits⟩ := (tidy_list_iff isList opens body).mp tidyList
    exact ⟨⟨⟨tidyBody, fun _ => bodyCloses⟩, fits⟩, tidyNodes,
      fun outside => closes.mp (isClosed outside)⟩
  · rintro ⟨⟨cleanBody, fits⟩, cleanNodes⟩
    refine ⟨?_, fun outside => closes.mpr (cleanNodes.closes outside)⟩
    rw [traverse_enclose_cons, traverse_leaf_cons, List.cons_append, List.forall_mem_cons,
      List.forall_mem_cons, List.forall_mem_append]
    have tidyList := (tidy_list_iff isList opens body).mpr ⟨cleanBody.closes inside, fits⟩
    exact ⟨tidyList, tidyParen, cleanBody.tidy, cleanNodes.tidy⟩

/-- A call is read clean when its arguments are. -/
theorem clean_call_cons_iff (callee : token.kind = .identifier) (opens : paren.kind = .openParen)
    (body nodes : List Node) :
    Clean rules enclosure (.enclose .call (.leaf .identifier token)
        [.enclose .arguments (.leaf .punctuation paren) body] :: nodes) ↔
      (Clean rules .arguments body ∧ rules .arguments (body.filterMap item?)) ∧
        Clean rules enclosure nodes := by
  have tidyCallee : (Node.leaf .identifier token).Tidy rules :=
    (tidy_leaf_iff (by rw [callee]; rfl)).mpr Kind.noConfusion
  have tidyCall : (Node.enclose .call (.leaf .identifier token)
      [.enclose .arguments (.leaf .punctuation paren) body]).Tidy rules :=
    tidy_of_enclosure?_eq_none rfl Kind.noConfusion
  -- A call adds to the nodes of its arguments only itself and the callee.
  have sameTidy : (∀ node ∈ traverse (.enclose .call (.leaf .identifier token)
        [.enclose .arguments (.leaf .punctuation paren) body] :: nodes), node.Tidy rules) ↔
      ∀ node ∈ traverse (.enclose .arguments (.leaf .punctuation paren) body :: nodes),
        node.Tidy rules := by
    rw [traverse_enclose_cons, traverse_leaf_cons, List.cons_append, List.forall_mem_cons,
      List.forall_mem_cons, ← traverse_append, List.singleton_append]
    exact ⟨fun tidy => tidy.2.2, fun tidy => ⟨tidyCall, tidyCallee, tidy⟩⟩
  have sameCloses := (closes_cons_iff (not_isClose_enclose .call (.leaf .identifier token)
    [.enclose .arguments (.leaf .punctuation paren) body]) nodes).trans
      (closes_cons_iff (not_isClose_enclose .arguments (.leaf .punctuation paren) body) nodes).symm
  have cleanList : Clean rules enclosure (.enclose .arguments (.leaf .punctuation paren) body ::
      nodes) ↔ _ := clean_list_cons_iff rfl opens body nodes
  refine Iff.trans ?_ cleanList
  constructor
  · rintro ⟨tidy, closes⟩
    exact ⟨sameTidy.mp tidy, fun inside => sameCloses.mp (closes inside)⟩
  · rintro ⟨tidy, closes⟩
    exact ⟨sameTidy.mpr tidy, fun inside => sameCloses.mpr (closes inside)⟩

end Clean

end Forest

end SetScript
