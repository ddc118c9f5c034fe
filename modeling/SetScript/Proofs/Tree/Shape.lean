import SetScript.Proofs.Binding.Site
import SetScript.Proofs.Tree.Nesting
import SetScript.Proofs.Tree.WellFormed

/-!
# Shapes of nodes

What stands among the children of a node depends on its kind alone.  A call is a callee with its
arguments, a list starts with its opening parenthesis and holds a closing one at most at its end,
commas separate nothing but arguments, and semicolons nothing but the statements of a document.

The types do not say so: nodes of any kind can be put together.  It holds of what reading makes,
and whoever looks up callees and arguments in a tree relies on it.
-/

namespace SetScript

open Text

/-! ## Punctuation -/

/-- The text of the tokens that are always written alike. -/
def TokenKind.mark? : TokenKind → Option String
  | .openParen => some "("
  | .closeParen => some ")"
  | .comma => some ","
  | .semicolon => some ";"
  | _ => none

theorem Token.Stands.text_eq_of_mark? {token : Token} {before after : List Char} {text : String}
    (stands : token.Stands before after) (mark : token.kind.mark? = some text) :
    token.text = text := by
  rcases stands.leads with ⟨c, rest, lexeme, -⟩
  rcases Lexeme.mk.inj lexeme with ⟨kind, chars⟩
  have opens := Lexeme.opens_kindAt c rest
  rw [← kind] at opens chars
  rw [← String.toList_inj, chars]
  cases tokenKind : token.kind <;> rw [tokenKind] at mark opens <;> cases mark <;>
    cases opens <;> rfl

namespace SyntaxTree

/-- A node of a tree is a punctuation mark with some text. -/
def IsMark (tree : SyntaxTree) (text : String) (node : Node) : Prop :=
  node.kind = .punctuation ∧ tree.text node = text

/-- A leaf that holds a token of punctuation is the mark that the token is written as. -/
theorem isMark_leaf {source text : String} {token : Token}
    (member : .leaf .punctuation token ∈ (parse source).root.descendants)
    (mark : token.kind.mark? = some text) :
    (parse source).IsMark text (.leaf .punctuation token) := by
  rcases Token.stands_of_mem_scan (mem_scan_of_leaf_mem member) with ⟨before, after, -, stands⟩
  exact ⟨rfl, (text_leaf member).trans (stands.text_eq_of_mark? mark)⟩

end SyntaxTree

/-! ## What stands in an enclosure -/

/-- The kinds of nodes that stand in every enclosure: expressions, and tokens that fit nowhere. -/
def Kind.expressions : List Kind :=
  [.call, .identifier, .string, .number, .parenthesized, .error]

theorem Kind.isNamed_of_mem_expressions {kind : Kind} (member : kind ∈ expressions) :
    kind.isNamed = true := by
  simp only [expressions, List.mem_cons, List.not_mem_nil, or_false] at member
  rcases member with rfl | rfl | rfl | rfl | rfl | rfl <;> rfl

theorem Kind.enclosure?_eq_some_iff {kind : Kind} {enclosure : Enclosure} :
    kind.enclosure? = some enclosure ↔
      kind = .arguments ∧ enclosure = .arguments ∨
        kind = .parenthesized ∧ enclosure = .parentheses := by
  cases kind <;> cases enclosure <;> simp [enclosure?]

namespace Forest

/-- What stands in an enclosure besides a closing parenthesis. -/
inductive StandsIn (enclosure : Enclosure) : Node → Prop
  | expression {node : Node} (kind : node.kind ∈ Kind.expressions) : StandsIn enclosure node
  | comma {token : Token} (arguments : enclosure = .arguments) (isComma : token.kind = .comma) :
      StandsIn enclosure (.leaf .punctuation token)
  | semicolon {token : Token} (document : enclosure = .document)
      (isSemicolon : token.kind = .semicolon) : StandsIn enclosure (.leaf .punctuation token)

/-- What fills an enclosure: only a list is closed, and only at its end. -/
inductive Fills (enclosure : Enclosure) : List Node → Prop
  | nil : Fills enclosure []
  | close {token : Token} (inside : enclosure ≠ .document) (isClose : token.kind = .closeParen) :
      Fills enclosure [.leaf .punctuation token]
  | cons {node : Node} {nodes : List Node} (standsIn : StandsIn enclosure node)
      (others : Fills enclosure nodes) : Fills enclosure (node :: nodes)

/-- The leaves that reading makes stand in their enclosure. -/
theorem standsIn_of_role_eq_leaf {enclosure : Enclosure} {depth : Nat} {token : Token} {kind : Kind}
    {next? : Option TokenKind} (isLeaf : role enclosure depth token.kind next? = .leaf kind) :
    StandsIn enclosure (.leaf kind token) := by
  cases tokenKind : token.kind <;> rw [tokenKind, role] at isLeaf
  case string | number | unknown =>
    cases isLeaf
    exact .expression (by simp [Kind.expressions])
  case comma =>
    split_ifs at isLeaf with arguments <;> cases isLeaf
    · exact .comma arguments tokenKind
    · exact .expression (by simp [Kind.expressions])
  case semicolon =>
    split_ifs at isLeaf with document
    cases isLeaf
    exact .semicolon document tokenKind
  case closeParen | openParen | identifier =>
    split_ifs at isLeaf
    cases isLeaf
    exact .expression (by simp [Kind.expressions])

/-- What is read fills its enclosure. -/
theorem Reads.fills {enclosure : Enclosure} {depth : Nat} {tokens rest : List Token}
    {nodes : List Node} (reads : Reads enclosure depth tokens nodes rest) :
    Fills enclosure nodes := by
  induction reads with
  | done => exact .nil
  | leaf isLeaf others ih => exact .cons (standsIn_of_role_eq_leaf isLeaf) ih
  | close kind inside => exact .close inside kind
  | stop kind inside => exact .nil
  | list kind room inner others innerIh ih =>
      exact .cons (.expression (by simp [Kind.expressions])) ih
  | call kind opens room inner others innerIh ih =>
      exact .cons (.expression (by simp [Kind.expressions])) ih

/-- A list holds what fills it behind its opening parenthesis. -/
def Filled (node : Node) : Prop :=
  ∀ enclosure, node.kind.enclosure? = some enclosure → Fills enclosure node.children.tail

theorem filled_of_enclosure?_eq_none {node : Node} (noList : node.kind.enclosure? = none) :
    Filled node := by
  intro enclosure isList
  cases noList.symm.trans isList

theorem filled_list {kind : Kind} {enclosure : Enclosure}
    (isList : kind.enclosure? = some enclosure) (opening : Node) {body : List Node}
    (fills : Fills enclosure body) :
    Filled (.enclose kind opening body) := by
  intro other isOther
  cases isList.symm.trans isOther
  exact fills

/-- Every list that reading makes is filled. -/
theorem Reads.filled {enclosure : Enclosure} {depth : Nat} {tokens rest : List Token}
    {nodes : List Node} (reads : Reads enclosure depth tokens nodes rest) :
    ∀ node ∈ Node.traverse nodes, Filled node := by
  have punctuation (token : Token) : Filled (.leaf .punctuation token) :=
    filled_of_enclosure?_eq_none rfl
  induction reads with
  | done => simp
  | leaf isLeaf others ih =>
      rw [Node.traverse_leaf_cons, List.forall_mem_cons]
      have noList := Kind.enclosure?_of_fits (fits_of_role_eq_leaf isLeaf)
      exact ⟨filled_of_enclosure?_eq_none noList, ih⟩
  | close kind inside =>
      rw [Node.traverse_leaf_cons, Node.traverse_nil, List.forall_mem_singleton]
      exact punctuation _
  | stop kind inside => simp
  | list kind room inner others innerIh ih =>
      rw [Node.traverse_enclose_cons, Node.traverse_leaf_cons, List.cons_append,
        List.forall_mem_cons, List.forall_mem_cons, List.forall_mem_append]
      exact ⟨filled_list rfl _ inner.fills, punctuation _, innerIh, ih⟩
  | call kind opens room inner others innerIh ih =>
      rw [Node.traverse_enclose_cons, Node.traverse_leaf_cons, Node.traverse_enclose_cons,
        Node.traverse_leaf_cons, Node.traverse_nil, List.append_nil, List.cons_append,
        List.cons_append, List.cons_append, List.forall_mem_cons, List.forall_mem_cons,
        List.forall_mem_cons, List.forall_mem_cons, List.forall_mem_append]
      exact ⟨filled_of_enclosure?_eq_none rfl, filled_of_enclosure?_eq_none rfl,
        filled_list rfl _ inner.fills, punctuation _, innerIh, ih⟩

end Forest

/-! ## The shapes of a document -/

namespace SyntaxTree

open Forest Binding

/-- The shape of a list: an opening parenthesis, then expressions, errors and, among arguments,
commas, and perhaps a closing parenthesis at the end. -/
def IsListShaped (tree : SyntaxTree) (list : Node) : Prop :=
  ∃ opening items closing, list.children = opening :: (items ++ closing) ∧
    tree.IsMark "(" opening ∧
    (∀ item ∈ items, item.kind ∈ Kind.expressions ∨
      list.kind = .arguments ∧ tree.IsMark "," item) ∧
    (closing = [] ∨ ∃ last, closing = [last] ∧ tree.IsMark ")" last)

/-- What can be relied on about the children of the nodes of a tree. -/
structure WellShaped (tree : SyntaxTree) : Prop where
  /-- A call is an identifier with its arguments. -/
  call : ∀ node ∈ tree.root.descendants, node.kind = .call →
    ∃ callee arguments, node.children = [callee, arguments] ∧ callee.kind = .identifier ∧
      arguments.kind = .arguments
  /-- Lists stand between parentheses. -/
  list : ∀ node ∈ tree.root.descendants, node.kind = .arguments ∨ node.kind = .parenthesized →
    tree.IsListShaped node
  /-- At the top of a document, semicolons are the only punctuation. -/
  top : ∀ child ∈ tree.root.children, child.kind ∈ Kind.expressions ∨ tree.IsMark ";" child
  /-- Semicolons stand only at the top of a document. -/
  semicolon : ∀ cursor : Cursor, cursor.StandsIn tree → tree.IsMark ";" cursor.node →
    cursor.path.length = 1
  /-- All other nodes are leaves. -/
  leaf : ∀ node ∈ tree.root.descendants,
    node.kind ∈ [.identifier, .string, .number, .punctuation, .error] → node.children = []
  /-- No path passes too many lists. -/
  lists : ∀ cursor : Cursor, cursor.StandsIn tree → tree.root.listsAlong cursor.path ≤ 256
  /-- So no path is too long. -/
  depth : ∀ cursor : Cursor, cursor.StandsIn tree → cursor.path.length ≤ 513
  /-- Every call has a callee. -/
  callee : ∀ node ∈ tree.root.descendants, node.kind = .call →
    ∃ callee, node.child? 0 = some callee ∧ calleeName? node = some (tree.text callee)
  /-- A call has no first argument when its list ends behind the opening parenthesis, or when a
  closing parenthesis or a comma comes next. -/
  firstArgument : ∀ node ∈ tree.root.descendants, node.kind = .call →
    (firstArgument? node = none ↔ ∃ list, node.child? 1 = some list ∧
      (list.children.length = 1 ∨ ∃ second, list.child? 1 = some second ∧
        (tree.IsMark ")" second ∨ tree.IsMark "," second)))

variable {source : String} {node : Node}

theorem filled_of_mem_descendants (member : node ∈ (parse source).root.descendants) :
    Filled node :=
  (reads_read .document 0 (Token.scan source.toList)).filled node member

/-- What stands in an enclosure of a document, told by its text. -/
theorem isMark_of_standsIn {enclosure : Enclosure}
    (member : node ∈ (parse source).root.descendants) (standsIn : StandsIn enclosure node) :
    node.kind ∈ Kind.expressions ∨ enclosure = .arguments ∧ (parse source).IsMark "," node ∨
      enclosure = .document ∧ (parse source).IsMark ";" node := by
  cases standsIn with
  | expression kind => exact Or.inl kind
  | comma arguments isComma =>
      exact Or.inr (Or.inl ⟨arguments, isMark_leaf member (by rw [isComma]; rfl)⟩)
  | semicolon document isSemicolon =>
      exact Or.inr (Or.inr ⟨document, isMark_leaf member (by rw [isSemicolon]; rfl)⟩)

/-- What fills a list of a document: its items, and perhaps a closing parenthesis. -/
theorem exists_items_of_fills {enclosure : Enclosure} {nodes : List Node}
    (members : ∀ node ∈ nodes, node ∈ (parse source).root.descendants)
    (fills : Fills enclosure nodes) :
    ∃ items closing, nodes = items ++ closing ∧ (∀ item ∈ items, StandsIn enclosure item) ∧
      (closing = [] ∨ enclosure ≠ .document ∧
        ∃ last, closing = [last] ∧ (parse source).IsMark ")" last) := by
  induction fills with
  | nil => exact ⟨[], [], rfl, by simp, Or.inl rfl⟩
  | @close token inside isClose =>
      have isMark := isMark_leaf (members _ List.mem_cons_self) (by rw [isClose]; rfl)
      exact ⟨[], [.leaf .punctuation token], rfl, by simp, Or.inr ⟨inside, _, rfl, isMark⟩⟩
  | @cons node nodes standsIn others ih =>
      rw [List.forall_mem_cons] at members
      rcases ih members.2 with ⟨items, closing, rfl, stand, closes⟩
      exact ⟨node :: items, closing, rfl, List.forall_mem_cons.mpr ⟨standsIn, stand⟩, closes⟩

/-- The lists of a document stand between parentheses. -/
theorem isListShaped_of_enclosure? {enclosure : Enclosure}
    (member : node ∈ (parse source).root.descendants)
    (isList : node.kind.enclosure? = some enclosure) : (parse source).IsListShaped node := by
  have below : ∀ child ∈ node.children, child ∈ (parse source).root.descendants :=
    fun child isChild =>
      Node.traverse_children_subset member (Node.mem_traverse_of_mem isChild)
  have fills := filled_of_mem_descendants member enclosure isList
  obtain ⟨paren, body, opens, children⟩ : ∃ paren body, paren.kind = .openParen ∧
      node.children = .leaf .punctuation paren :: body := by
    cases formed_of_mem_descendants member with
    | leaf fits => cases (Kind.enclosure?_of_fits fits).symm.trans isList
    | parenthesized opens => exact ⟨_, _, opens, rfl⟩
    | arguments opens => exact ⟨_, _, opens, rfl⟩
    | call => cases isList
  rw [children, List.forall_mem_cons] at below
  rw [children] at fills
  rcases exists_items_of_fills below.2 fills with ⟨items, closing, whole, stand, closes⟩
  refine ⟨_, items, closing, by rw [children, whole], isMark_leaf below.1 (by rw [opens]; rfl),
    ?_, closes.imp_right And.right⟩
  intro item isItem
  rw [whole] at below
  rcases isMark_of_standsIn (below.2 item (List.mem_append_left _ isItem)) (stand item isItem) with
    expression | ⟨arguments, isComma⟩ | ⟨document, -⟩
  · exact Or.inl expression
  · rcases Kind.enclosure?_eq_some_iff.mp isList with ⟨kind, -⟩ | ⟨-, parentheses⟩
    · exact Or.inr ⟨kind, isComma⟩
    · cases arguments.symm.trans parentheses
  · rcases Kind.enclosure?_eq_some_iff.mp isList with ⟨-, arguments⟩ | ⟨-, parentheses⟩
    · cases document.symm.trans arguments
    · cases document.symm.trans parentheses

/-- The punctuation marks of a list are its parentheses and commas. -/
theorem IsListShaped.text_of_punctuation {tree : SyntaxTree} (shaped : tree.IsListShaped node)
    {child : Node} (isChild : child ∈ node.children) (punctuation : child.kind = .punctuation) :
    tree.text child ∈ ["(", ",", ")"] := by
  rcases shaped with ⟨opening, items, closing, children, opens, stand, closes⟩
  rw [children, List.mem_cons, List.mem_append] at isChild
  rcases isChild with rfl | isItem | isClosing
  · simp [opens.2]
  · rcases stand child isItem with expression | ⟨-, isComma⟩
    · have named := Kind.isNamed_of_mem_expressions expression
      rw [punctuation] at named
      cases named
    · simp [isComma.2]
  · rcases closes with rfl | ⟨last, rfl, isClose⟩
    · cases isClosing
    · rw [List.mem_singleton.mp isClosing]
      simp [isClose.2]

/-- Below the top of a document there is no semicolon. -/
theorem not_isMark_semicolon {child : Node} (member : node ∈ (parse source).root.descendants)
    (isChild : child ∈ node.children) : ¬ (parse source).IsMark ";" child := by
  rintro ⟨punctuation, text⟩
  have inList (enclosure : Enclosure) (isList : node.kind.enclosure? = some enclosure) : False := by
    have listed :=
      (isListShaped_of_enclosure? member isList).text_of_punctuation isChild punctuation
    rw [text] at listed
    revert listed
    decide
  cases formed_of_mem_descendants member with
  | leaf fits => cases isChild
  | parenthesized opens => exact inList .parentheses rfl
  | arguments opens => exact inList .arguments rfl
  | call identifier opens =>
      rw [Node.children_enclose, List.mem_cons, List.mem_singleton] at isChild
      rcases isChild with rfl | rfl <;> cases punctuation

/-- What stands first among arguments is a delimiter or has a name. -/
theorem isNamed_eq_false_iff_of_fills {others : List Node}
    (member : node ∈ (parse source).root.descendants) (fills : Fills .arguments (node :: others)) :
    node.isNamed = false ↔
      (parse source).IsMark ")" node ∨ (parse source).IsMark "," node := by
  constructor
  · intro unnamed
    cases fills with
    | close inside isClose => exact Or.inl (isMark_leaf member (by rw [isClose]; rfl))
    | cons standsIn _ =>
        cases standsIn with
        | expression kind =>
            cases (Kind.isNamed_of_mem_expressions kind).symm.trans unnamed
        | comma arguments isComma => exact Or.inr (isMark_leaf member (by rw [isComma]; rfl))
        | semicolon document isSemicolon => cases document
  · rintro (isMark | isMark) <;> rw [Node.isNamed, isMark.1] <;> rfl

/-- A call of a document is a callee with its arguments. -/
theorem exists_callNode (member : node ∈ (parse source).root.descendants)
    (isCall : node.kind = .call) : ∃ callee paren body, node = callNode callee paren body := by
  cases formed_of_mem_descendants member with
  | call identifier opens => exact ⟨_, _, _, rfl⟩
  | leaf fits =>
      cases isCall
      cases fits
  | parenthesized | arguments => cases isCall

/-- A call has no first argument when its list ends behind the opening parenthesis, or when a
delimiter comes next. -/
theorem firstArgument?_eq_none_iff {callee paren : Token} {body : List Node}
    (member : callNode callee paren body ∈ (parse source).root.descendants) :
    firstArgument? (callNode callee paren body) = none ↔
      body = [] ∨ ∃ second, body.head? = some second ∧
        ((parse source).IsMark ")" second ∨ (parse source).IsMark "," second) := by
  have list :
      .enclose .arguments (.leaf .punctuation paren) body ∈ (parse source).root.descendants :=
    Node.traverse_children_subset member (Node.mem_traverse_of_mem (by simp))
  have fills := filled_of_mem_descendants list .arguments rfl
  rw [firstArgument?_callNode]
  cases body with
  | nil => simp
  | cons second others =>
      have below : second ∈ (parse source).root.descendants :=
        Node.traverse_children_subset list (Node.mem_traverse_of_mem (by simp))
      rw [List.head?_cons, Option.filter_some]
      simp [← isNamed_eq_false_iff_of_fills below fills]

/-- The nodes of every document have the shapes that look-ups rely on. -/
theorem wellShaped_parse (source : String) : (parse source).WellShaped where
  call node member isCall := by
    rcases exists_callNode member isCall with ⟨callee, paren, body, rfl⟩
    exact ⟨_, _, rfl, rfl, rfl⟩
  list node member isList := by
    rcases isList with arguments | parenthesized
    · exact isListShaped_of_enclosure? member (by rw [arguments]; rfl)
    · exact isListShaped_of_enclosure? member (by rw [parenthesized]; rfl)
  top child isChild := by
    have below : ∀ node ∈ (parse source).root.children, node ∈ (parse source).root.descendants :=
      fun node => Node.mem_traverse_of_mem
    have fills := (reads_read .document 0 (Token.scan source.toList)).fills
    rcases exists_items_of_fills below fills with ⟨items, closing, whole, stand, closes⟩
    rcases closes with rfl | ⟨inside, -⟩
    · rw [List.append_nil] at whole
      have standsIn := stand child (whole ▸ isChild)
      rcases isMark_of_standsIn (below child isChild) standsIn with
        expression | ⟨arguments, -⟩ | ⟨-, isSemicolon⟩
      · exact Or.inl expression
      · cases arguments
      · exact Or.inr isSemicolon
    · exact absurd rfl inside
  semicolon cursor standsIn isSemicolon := by
    have notRoot : cursor ≠ .root (parse source) := by
      rintro rfl
      cases isSemicolon.1
    rcases standsIn.exists_parent notRoot with ⟨parent, index, parentStandsIn, isChild⟩
    rcases Cursor.child?_eq_some_iff.mp isChild with ⟨path, isNode⟩
    by_cases isRoot : parent = .root (parse source)
    · rw [path, isRoot]
      rfl
    · have member := parentStandsIn.mem_descendants isRoot
      exact absurd isSemicolon (not_isMark_semicolon member (List.mem_of_getElem? isNode))
  leaf node member kind := by
    cases formed_of_mem_descendants member with
    | leaf fits => rfl
    | parenthesized | arguments | call => simp at kind
  lists cursor standsIn := (within_root_parse source cursor.path cursor.node standsIn).1
  depth cursor standsIn := (within_root_parse source cursor.path cursor.node standsIn).2
  callee node member isCall := by
    rcases exists_callNode member isCall with ⟨callee, paren, body, rfl⟩
    have below : .leaf .identifier callee ∈ (parse source).root.descendants :=
      Node.traverse_children_subset member (Node.mem_traverse_of_mem List.mem_cons_self)
    refine ⟨.leaf .identifier callee, rfl, ?_⟩
    rw [text_leaf below]
    rfl
  firstArgument node member isCall := by
    rcases exists_callNode member isCall with ⟨callee, paren, body, rfl⟩
    rw [firstArgument?_eq_none_iff member, List.head?_eq_getElem?]
    constructor
    · rintro (rfl | next)
      · exact ⟨_, rfl, Or.inl rfl⟩
      · exact ⟨_, rfl, Or.inr next⟩
    · rintro ⟨list, isList, alone | next⟩
      · cases isList
        exact Or.inl (List.length_eq_zero_iff.mp (Nat.succ.inj alone))
      · cases isList
        exact Or.inr next

end SyntaxTree

end SetScript
