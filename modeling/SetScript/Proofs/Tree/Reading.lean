import SetScript.Tree.SyntaxTree
import SetScript.Proofs.Tree.Node

/-!
# What reading does

`Reads` lists everything that reading can do with the next token, one constructor
for each way to go on.  It describes `Forest.read` exactly, and all that is proved
about trees is proved by induction over it.

The main facts: the leaves of what is read are the tokens that were read, a document
reads all of its tokens, and every node that arises has one of a few shapes.
-/

namespace SetScript

/-- Which tokens the leaves of a kind hold. -/
def Kind.fits : Kind → TokenKind → Bool
  | .identifier, .identifier => true
  | .string, .string => true
  | .number, .number => true
  | .punctuation, .openParen => true
  | .punctuation, .closeParen => true
  | .punctuation, .comma => true
  | .punctuation, .semicolon => true
  | .error, .unknown => true
  | .error, .openParen => true
  | .error, .closeParen => true
  | .error, .comma => true
  | _, _ => false

/-- String leaves are those that hold string tokens. -/
theorem Kind.eq_string_iff_of_fits {kind : Kind} {tokenKind : TokenKind}
    (fits : kind.fits tokenKind = true) : kind = .string ↔ tokenKind = .string := by
  cases kind <;> cases tokenKind <;> simp [Kind.fits] at fits ⊢

namespace Forest

section Role

variable {enclosure : Enclosure} {depth : Nat} {tokenKind : TokenKind}
  {next? : Option TokenKind}

/-- The leaves that reading makes hold tokens that fit their kind. -/
theorem fits_of_role_eq_leaf {kind : Kind}
    (isLeaf : role enclosure depth tokenKind next? = .leaf kind) :
    kind.fits tokenKind = true := by
  cases tokenKind with
  | string | number | unknown =>
      cases isLeaf
      rfl
  | openParen | closeParen | comma | semicolon | identifier =>
      simp only [role] at isLeaf
      split_ifs at isLeaf <;> cases isLeaf <;> rfl

theorem role_eq_close_iff :
    role enclosure depth tokenKind next? = .close ↔
      tokenKind = .closeParen ∧ enclosure ≠ .document := by
  cases tokenKind <;> simp [role] <;> split_ifs <;> simp_all

theorem role_eq_stop_iff :
    role enclosure depth tokenKind next? = .stop ↔
      tokenKind = .semicolon ∧ enclosure ≠ .document := by
  cases tokenKind <;> simp [role] <;> split_ifs <;> simp_all

theorem role_eq_list_iff :
    role enclosure depth tokenKind next? = .list ↔
      tokenKind = .openParen ∧ depth < maxDepth := by
  cases tokenKind <;> simp [role] <;> split_ifs <;> simp_all

theorem role_eq_callee_iff :
    role enclosure depth tokenKind next? = .callee ↔
      tokenKind = .identifier ∧ next? = some .openParen ∧ depth < maxDepth := by
  cases tokenKind <;> simp [role] <;> split_ifs <;> simp_all

end Role

/-- The ways to read nodes from the front of a token list, up to the end of their
enclosure: the nodes, and the tokens after them. -/
inductive Reads : Enclosure → Nat → List Token → List Node → List Token → Prop
  /-- There is no token left. -/
  | done {enclosure : Enclosure} {depth : Nat} : Reads enclosure depth [] [] []
  /-- The token becomes a leaf. -/
  | leaf {enclosure : Enclosure} {depth : Nat} {token : Token} {tokens rest : List Token}
      {kind : Kind} {nodes : List Node}
      (isLeaf : role enclosure depth token.kind (tokens.head?.map Token.kind) = .leaf kind)
      (others : Reads enclosure depth tokens nodes rest) :
      Reads enclosure depth (token :: tokens) (.leaf kind token :: nodes) rest
  /-- The token closes the list. -/
  | close {enclosure : Enclosure} {depth : Nat} {token : Token} {tokens : List Token}
      (kind : token.kind = .closeParen) (inside : enclosure ≠ .document) :
      Reads enclosure depth (token :: tokens) [.leaf .punctuation token] tokens
  /-- The token is left for the document and ends the list. -/
  | stop {enclosure : Enclosure} {depth : Nat} {token : Token} {tokens : List Token}
      (kind : token.kind = .semicolon) (inside : enclosure ≠ .document) :
      Reads enclosure depth (token :: tokens) [] (token :: tokens)
  /-- The token opens a parenthesized list. -/
  | list {enclosure : Enclosure} {depth : Nat} {token : Token} {tokens later rest : List Token}
      {body nodes : List Node} (kind : token.kind = .openParen) (room : depth < maxDepth)
      (inner : Reads .parentheses (depth + 1) tokens body later)
      (others : Reads enclosure depth later nodes rest) :
      Reads enclosure depth (token :: tokens)
        (.enclose .parenthesized (.leaf .punctuation token) body :: nodes) rest
  /-- The token is the callee of a call, and the next one opens its arguments. -/
  | call {enclosure : Enclosure} {depth : Nat} {token paren : Token}
      {tokens later rest : List Token} {body nodes : List Node}
      (kind : token.kind = .identifier) (opens : paren.kind = .openParen)
      (room : depth < maxDepth)
      (inner : Reads .arguments (depth + 1) tokens body later)
      (others : Reads enclosure depth later nodes rest) :
      Reads enclosure depth (token :: paren :: tokens)
        (.enclose .call (.leaf .identifier token)
          [.enclose .arguments (.leaf .punctuation paren) body] :: nodes) rest

/-- Reading does one of the things that `Reads` lists. -/
theorem reads_read (enclosure : Enclosure) (depth : Nat) (tokens : List Token) :
    Reads enclosure depth tokens (read enclosure depth tokens).nodes
      (read enclosure depth tokens).rest := by
  fun_induction read enclosure depth tokens with
  | case1 => exact .done
  | case2 enclosure depth token tokens kind isLeaf ih => exact .leaf isLeaf ih
  | case3 enclosure depth token tokens isClose =>
      obtain ⟨kind, inside⟩ := role_eq_close_iff.mp isClose
      exact .close kind inside
  | case4 enclosure depth token tokens isStop =>
      obtain ⟨kind, inside⟩ := role_eq_stop_iff.mp isStop
      exact .stop kind inside
  | case5 enclosure depth token tokens isList body list innerIh othersIh =>
      obtain ⟨kind, room⟩ := role_eq_list_iff.mp isList
      exact .list kind room innerIh othersIh
  | case6 enclosure depth token isCallee =>
      obtain ⟨-, next, -⟩ := role_eq_callee_iff.mp isCallee
      cases next
  | case7 enclosure depth token paren tokens body list call isCallee innerIh othersIh =>
      obtain ⟨kind, next, room⟩ := role_eq_callee_iff.mp isCallee
      have opens : paren.kind = .openParen := Option.some.inj next
      exact .call kind opens room innerIh othersIh

/-- What `Reads` lists is what reading does. -/
theorem Reads.read_eq {enclosure : Enclosure} {depth : Nat} {tokens rest : List Token}
    {nodes : List Node} (reads : Reads enclosure depth tokens nodes rest) :
    (read enclosure depth tokens).nodes = nodes ∧ (read enclosure depth tokens).rest = rest := by
  induction reads with
  | done =>
      rw [read]
      exact ⟨rfl, rfl⟩
  | leaf isLeaf others ih =>
      rw [read.eq_def]
      simp only [isLeaf]
      exact ⟨congrArg _ ih.1, ih.2⟩
  | close kind inside =>
      rw [read.eq_def]
      simp [role_eq_close_iff.mpr ⟨kind, inside⟩]
  | stop kind inside =>
      rw [read.eq_def]
      simp [role_eq_stop_iff.mpr ⟨kind, inside⟩]
  | @list enclosure depth token tokens later rest body nodes kind room inner others innerIh ih =>
      obtain ⟨rfl, rfl⟩ := innerIh
      rw [read.eq_def]
      simp only [role_eq_list_iff.mpr ⟨kind, room⟩]
      exact ⟨congrArg _ ih.1, ih.2⟩
  | @call enclosure depth token paren tokens later rest body nodes kind opens room inner others
      innerIh ih =>
      obtain ⟨rfl, rfl⟩ := innerIh
      have isCallee : role enclosure depth token.kind
          ((paren :: tokens).head?.map Token.kind) = .callee :=
        role_eq_callee_iff.mpr ⟨kind, congrArg some opens, room⟩
      rw [read, isCallee]
      exact ⟨congrArg _ ih.1, ih.2⟩

namespace Reads

variable {enclosure : Enclosure} {depth : Nat} {tokens rest : List Token} {nodes : List Node}

/-- Reading keeps every token, in order. -/
theorem flatMap_leaves (reads : Reads enclosure depth tokens nodes rest) :
    nodes.flatMap Node.leaves ++ rest = tokens := by
  induction reads with
  | done => rfl
  | leaf isLeaf others ih =>
      rw [List.flatMap_cons, Node.leaves_leaf, List.append_assoc, ih]
      rfl
  | close kind inside => simp
  | stop kind inside => rfl
  | list kind room inner others innerIh ih =>
      rw [List.flatMap_cons, Node.leaves_enclose, List.flatMap_cons, Node.leaves_leaf,
        List.append_assoc, ih, List.append_assoc, innerIh]
      rfl
  | call kind opens room inner others innerIh ih =>
      rw [List.flatMap_cons, Node.leaves_enclose, List.append_assoc, ih]
      simp [innerIh]

/-- A document leaves no token unread. -/
theorem rest_eq_nil (reads : Reads .document depth tokens nodes rest) : rest = [] := by
  generalize equal : Enclosure.document = enclosure at reads
  induction reads with
  | done => rfl
  | leaf isLeaf others ih => exact ih equal
  | close kind inside => exact absurd equal.symm inside
  | stop kind inside => exact absurd equal.symm inside
  | list kind room inner others innerIh ih => exact ih equal
  | call kind opens room inner others innerIh ih => exact ih equal

end Reads

/-- The leaves of a document are its tokens. -/
theorem flatMap_leaves_ofTokens (tokens : List Token) :
    (ofTokens tokens).flatMap Node.leaves = tokens := by
  have reads := reads_read .document 0 tokens
  have kept := reads.flatMap_leaves
  rw [reads.rest_eq_nil, List.append_nil] at kept
  exact kept

end Forest

/-! ## Shapes of nodes -/

namespace Node

/-- The shapes of the nodes below a root. -/
inductive Formed : Node → Prop
  | leaf {kind : Kind} {token : Token} (fits : kind.fits token.kind = true) :
      Formed (.leaf kind token)
  | parenthesized {paren : Token} {body : List Node} (opens : paren.kind = .openParen) :
      Formed (.enclose .parenthesized (.leaf .punctuation paren) body)
  | arguments {paren : Token} {body : List Node} (opens : paren.kind = .openParen) :
      Formed (.enclose .arguments (.leaf .punctuation paren) body)
  | call {callee paren : Token} {body : List Node} (identifier : callee.kind = .identifier)
      (opens : paren.kind = .openParen) :
      Formed (.enclose .call (.leaf .identifier callee)
        [.enclose .arguments (.leaf .punctuation paren) body])

/-- A leaf that holds punctuation. -/
theorem Formed.punctuation {paren : Token} (opens : paren.kind = .openParen) :
    Formed (.leaf .punctuation paren) :=
  .leaf (by rw [opens]; rfl)

theorem Formed.identifier {callee : Token} (kind : callee.kind = .identifier) :
    Formed (.leaf .identifier callee) :=
  .leaf (by rw [kind]; rfl)

end Node

namespace Forest

/-- Every node that reading makes has one of the shapes. -/
theorem Reads.formed {enclosure : Enclosure} {depth : Nat} {tokens rest : List Token}
    {nodes : List Node} (reads : Reads enclosure depth tokens nodes rest) :
    ∀ node ∈ Node.traverse nodes, node.Formed := by
  induction reads with
  | done => simp
  | leaf isLeaf others ih =>
      rw [Node.traverse_leaf_cons, List.forall_mem_cons]
      exact ⟨.leaf (fits_of_role_eq_leaf isLeaf), ih⟩
  | close kind inside =>
      rw [Node.traverse_leaf_cons, List.forall_mem_cons]
      exact ⟨.leaf (by rw [kind]; rfl), by simp⟩
  | stop kind inside => simp
  | list kind room inner others innerIh ih =>
      rw [Node.traverse_enclose_cons, Node.traverse_leaf_cons, List.cons_append,
        List.forall_mem_cons, List.forall_mem_cons, List.forall_mem_append]
      exact ⟨.parenthesized kind, .punctuation kind, innerIh, ih⟩
  | call kind opens room inner others innerIh ih =>
      rw [Node.traverse_enclose_cons, Node.traverse_leaf_cons, Node.traverse_enclose_cons,
        Node.traverse_leaf_cons, Node.traverse_nil, List.append_nil, List.cons_append,
        List.cons_append, List.cons_append, List.forall_mem_cons, List.forall_mem_cons,
        List.forall_mem_cons, List.forall_mem_cons, List.forall_mem_append]
      exact ⟨.call kind opens, .identifier kind, .arguments opens, .punctuation opens, innerIh, ih⟩

end Forest

namespace SyntaxTree

open Text

@[simp]
theorem content_parse (source : String) : (parse source).content = source.toList :=
  rfl

/-- What is met below the root of a document is what its tokens are read into. -/
theorem descendants_root_parse (source : String) :
    (parse source).root.descendants =
      Node.traverse (Forest.ofTokens (Token.scan source.toList)) :=
  rfl

/-- Every node below the root of a document has one of the shapes. -/
theorem formed_of_mem_descendants {source : String} {node : Node}
    (member : node ∈ (parse source).root.descendants) : node.Formed :=
  (Forest.reads_read .document 0 (Token.scan source.toList)).formed node member

/-- The leaves below the root of a document hold its tokens. -/
theorem mem_scan_of_leaf_mem {source : String} {kind : Kind} {token : Token}
    (member : .leaf kind token ∈ (parse source).root.descendants) :
    token ∈ Token.scan source.toList := by
  rw [descendants_root_parse] at member
  have held := Node.mem_leaves_of_mem_traverse member
  rw [Forest.flatMap_leaves_ofTokens] at held
  exact held

/-- A string literal below the root of a document holds one of its string tokens. -/
theorem exists_token_of_kind_eq_string {source : String} {node : Node}
    (member : node ∈ (parse source).root.descendants) (string : node.kind = .string) :
    ∃ token ∈ Token.scan source.toList, token.kind = .string ∧ node = .leaf .string token := by
  cases formed_of_mem_descendants member with
  | leaf fits =>
      cases string
      exact ⟨_, mem_scan_of_leaf_mem member, (Kind.eq_string_iff_of_fits fits).mp rfl, rfl⟩
  | parenthesized | arguments | call => cases string

/-- The string tokens of a document are held by string leaves below its root. -/
theorem leaf_mem_of_mem_scan {source : String} {token : Token}
    (member : token ∈ Token.scan source.toList) (string : token.kind = .string) :
    .leaf .string token ∈ (parse source).root.descendants := by
  rw [← Forest.flatMap_leaves_ofTokens (Token.scan source.toList),
    ← Node.filterMap_token?_traverse] at member
  obtain ⟨node, below, holds⟩ := List.mem_filterMap.mp member
  cases formed_of_mem_descendants below with
  | leaf fits =>
      cases holds
      cases (Kind.eq_string_iff_of_fits fits).mpr string
      exact below
  | parenthesized | arguments | call => cases holds

end SyntaxTree

end SetScript
