import SetScript.Proofs.Tree.Reading

/-!
# Reading with a stack

Where a token stands in a tree is told by the kind of its leaf and by the lists around
it.  Both can be found in one pass over the tokens, with a stack of the open lists and
no lookahead: `Stack.run` decides about each token from the stack and the token before
it alone.

The reader decides by recursion, looks ahead for the parenthesis of a call, and has a
case of its own for lists that nest too deep.  The two agree on every document.  The
invariant is `Stack.Follows`: the stack is as deep as the reader says, its top is what
encloses the tokens, and no identifier that could still become a callee was passed.
-/

namespace SetScript

/-- A list, told by its kind and the token that opens it. -/
structure OpenList where
  kind : Kind
  opening? : Option Token
deriving DecidableEq

/-- Where a token stands: the kind of its leaf, and the lists around it, the innermost
one first. -/
structure Standing where
  token : Token
  kind : Kind
  lists : List OpenList
deriving DecidableEq

/-! ## Standings in a tree -/

namespace Node

/-- The list that a node is, if it is one. -/
def openList? (node : Node) : Option OpenList :=
  if node.kind = .arguments ∨ node.kind = .parenthesized then
    some ⟨node.kind, node.children.head?.bind token?⟩
  else
    none

mutual

/-- Where the tokens of a tree stand that is inside of some lists. -/
def standings (lists : List OpenList) : Node → List Standing
  | leaf kind token => [⟨token, kind, lists⟩]
  | branch kind span children =>
      standingsAll ((branch kind span children).openList?.toList ++ lists) children

/-- Where the tokens of a forest stand that is inside of some lists. -/
def standingsAll (lists : List OpenList) : List Node → List Standing
  | [] => []
  | node :: rest => standings lists node ++ standingsAll lists rest

end

@[simp]
theorem openList?_call (first : Node) (others : List Node) :
    (enclose .call first others).openList? = none :=
  rfl

theorem openList?_list {kind : Kind} (isList : kind = .arguments ∨ kind = .parenthesized)
    (paren : Token) (body : List Node) :
    (enclose kind (leaf .punctuation paren) body).openList? = some ⟨kind, some paren⟩ :=
  if_pos isList

variable (lists : List OpenList)

@[simp]
theorem standingsAll_nil : standingsAll lists [] = [] := by
  rw [standingsAll]

@[simp]
theorem standingsAll_leaf_cons (kind : Kind) (token : Token) (rest : List Node) :
    standingsAll lists (leaf kind token :: rest) =
      ⟨token, kind, lists⟩ :: standingsAll lists rest := by
  rw [standingsAll, standings, List.singleton_append]

theorem standingsAll_enclose_cons (kind : Kind) (first : Node) (others rest : List Node) :
    standingsAll lists (enclose kind first others :: rest) =
      standingsAll ((enclose kind first others).openList?.toList ++ lists) (first :: others) ++
        standingsAll lists rest := by
  rw [standingsAll]
  conv_lhs => rw [enclose, standings]
  rfl

/-- The tokens of a list stand inside of it, the parentheses included. -/
theorem standingsAll_list_cons {kind : Kind} (isList : kind = .arguments ∨ kind = .parenthesized)
    (paren : Token) (body rest : List Node) :
    standingsAll lists (enclose kind (leaf .punctuation paren) body :: rest) =
      ⟨paren, .punctuation, ⟨kind, some paren⟩ :: lists⟩ ::
        (standingsAll (⟨kind, some paren⟩ :: lists) body ++ standingsAll lists rest) := by
  rw [standingsAll_enclose_cons, openList?_list isList, Option.toList_some, List.singleton_append,
    standingsAll_leaf_cons, List.cons_append]

/-- A call is no list, but its arguments are one. -/
theorem standingsAll_call_cons (callee paren : Token) (body rest : List Node) :
    standingsAll lists (enclose .call (leaf .identifier callee)
        [enclose .arguments (leaf .punctuation paren) body] :: rest) =
      ⟨callee, .identifier, lists⟩ ::
        standingsAll lists (enclose .arguments (leaf .punctuation paren) body :: rest) := by
  rw [standingsAll_enclose_cons, openList?_call, Option.toList_none, List.nil_append,
    standingsAll_leaf_cons, standingsAll_list_cons lists (Or.inl rfl),
    standingsAll_list_cons lists (Or.inl rfl), standingsAll_nil, List.append_nil, List.cons_append,
    List.cons_append]

end Node

/-! ## The stack -/

/-- The lists that are open, the innermost one first, and whether the token passed last
is an identifier. -/
structure Stack where
  lists : List OpenList := []
  afterIdentifier : Bool := false

namespace Stack

open Forest

/-- What becomes of a token: the kind of its leaf, the lists around it, and the lists
that are open after it. -/
structure Move where
  kind : Kind
  around : List OpenList
  after : List OpenList

/-- A token that leaves the open lists as they are. -/
def Move.stay (kind : Kind) (lists : List OpenList) : Move :=
  ⟨kind, lists, lists⟩

/-- Decide about a token. -/
def move (stack : Stack) (token : Token) : Move :=
  match token.kind, stack.lists with
  | .identifier, lists => .stay .identifier lists
  | .string, lists => .stay .string lists
  | .number, lists => .stay .number lists
  | .unknown, lists => .stay .error lists
  | .openParen, lists =>
      if lists.length < maxDepth then
        let kind := if stack.afterIdentifier then .arguments else .parenthesized
        .stay .punctuation (⟨kind, some token⟩ :: lists)
      else
        .stay .error lists
  | .closeParen, [] => .stay .error []
  | .closeParen, list :: outer => ⟨.punctuation, list :: outer, outer⟩
  | .comma, [] => .stay .error []
  | .comma, list :: outer =>
      .stay (if list.kind = .arguments then .punctuation else .error) (list :: outer)
  | .semicolon, _ => .stay .punctuation []

/-- Pass a token. -/
def pass (stack : Stack) (token : Token) : Stack :=
  ⟨(stack.move token).after, token.kind == .identifier⟩

/-- Where tokens stand that are passed one after another. -/
def run (stack : Stack) : List Token → List Standing
  | [] => []
  | token :: tokens =>
      ⟨token, (stack.move token).kind, (stack.move token).around⟩ :: run (stack.pass token) tokens

/-! ## Agreement with the reader -/

/-- What encloses the tokens inside of some lists. -/
def enclosure : List OpenList → Enclosure
  | [] => .document
  | list :: _ => if list.kind = .arguments then .arguments else .parentheses

/-- A stack is in step with the reader in front of some tokens. -/
structure Follows (stack : Stack) (enclosure : Enclosure) (depth : Nat) (tokens : List Token) :
    Prop where
  enclosure_eq : Stack.enclosure stack.lists = enclosure
  depth_eq : stack.lists.length = depth
  /-- No callee was passed. -/
  settled : stack.afterIdentifier = true →
    tokens.head?.map Token.kind = some .openParen → maxDepth ≤ depth

theorem run_cons {stack : Stack} {token : Token} {move : Move} (moves : stack.move token = move)
    (tokens : List Token) :
    stack.run (token :: tokens) =
      ⟨token, move.kind, move.around⟩ :: run ⟨move.after, token.kind == .identifier⟩ tokens := by
  rw [run, pass, moves]

theorem move_openParen {stack : Stack} {paren : Token} (opens : paren.kind = .openParen)
    (room : stack.lists.length < maxDepth) :
    stack.move paren =
      .stay .punctuation
        (⟨if stack.afterIdentifier then .arguments else .parenthesized, some paren⟩ ::
          stack.lists) := by
  rw [move, opens]
  exact if_pos room

/-- A semicolon leaves nothing of the stack. -/
theorem run_semicolon {semicolon : Token} (kind : semicolon.kind = .semicolon)
    (stack : Stack) (tokens : List Token) :
    stack.run (semicolon :: tokens) = ⟨semicolon, .punctuation, []⟩ :: run {} tokens := by
  have moves : stack.move semicolon = .stay .punctuation [] := by
    rw [move, kind]
  rw [run_cons moves, kind]
  rfl

theorem enclosure_cons_ne_document (list : OpenList) (outer : List OpenList) :
    enclosure (list :: outer) ≠ .document := by
  rw [enclosure]
  split_ifs <;> exact Enclosure.noConfusion

namespace Follows

variable {stack : Stack} {enclosure : Enclosure} {depth : Nat} {token : Token}
  {tokens : List Token}

/-- What the reader makes a leaf becomes the same leaf, and does not change the stack. -/
theorem move_of_role_eq_leaf (follows : stack.Follows enclosure depth (token :: tokens))
    {kind : Kind} {next? : Option TokenKind}
    (isLeaf : role enclosure depth token.kind next? = .leaf kind) :
    stack.move token = .stay kind stack.lists := by
  rcases follows with ⟨rfl, rfl, -⟩
  rcases stack with ⟨lists, afterIdentifier⟩
  rw [move]
  cases tokenKind : token.kind <;> rw [tokenKind] at isLeaf
  case string | number | unknown =>
    cases isLeaf
    rfl
  case identifier =>
    rw [role] at isLeaf
    split_ifs at isLeaf
    cases isLeaf
    rfl
  case openParen =>
    rw [role] at isLeaf
    split_ifs at isLeaf with room
    cases isLeaf
    exact if_neg room
  case comma =>
    cases isLeaf
    cases lists with
    | nil => rfl
    | cons list outer => by_cases arguments : list.kind = .arguments <;>
        simp [Stack.enclosure, arguments]
  case closeParen =>
    cases lists with
    | nil =>
        cases isLeaf
        rfl
    | cons list outer =>
        rw [role_eq_close_iff.mpr ⟨rfl, enclosure_cons_ne_document list outer⟩] at isLeaf
        cases isLeaf
  case semicolon =>
    cases lists with
    | nil =>
        cases isLeaf
        rfl
    | cons list outer =>
        rw [role_eq_stop_iff.mpr ⟨rfl, enclosure_cons_ne_document list outer⟩] at isLeaf
        cases isLeaf

/-- A stack stays in step over a leaf: an identifier with a parenthesis behind it is a
leaf only where no more list may be opened. -/
theorem of_leaf (follows : stack.Follows enclosure depth (token :: tokens)) {kind : Kind}
    (isLeaf : role enclosure depth token.kind (tokens.head?.map Token.kind) = .leaf kind) :
    Follows ⟨stack.lists, token.kind == .identifier⟩ enclosure depth tokens where
  enclosure_eq := follows.enclosure_eq
  depth_eq := follows.depth_eq
  settled identifier opens := by
    by_contra room
    have isCallee : role enclosure depth token.kind (tokens.head?.map Token.kind) = .callee :=
      role_eq_callee_iff.mpr ⟨beq_iff_eq.mp identifier, opens, Nat.lt_of_not_le room⟩
    exact Role.noConfusion (isCallee.symm.trans isLeaf)

/-- A stack whose last token is not an identifier is in step when it has the right lists. -/
theorem of_lists {lists : List OpenList} (enclosure_eq : Stack.enclosure lists = enclosure)
    (depth_eq : lists.length = depth) (tokens : List Token) :
    Follows ⟨lists, false⟩ enclosure depth tokens :=
  ⟨enclosure_eq, depth_eq, fun identifier => Bool.noConfusion identifier⟩

/-- A stack stays in step when the reader enters a list. -/
theorem push (follows : stack.Follows enclosure depth tokens) (kind : Kind) (paren : Token)
    (inner : List Token) :
    Follows ⟨⟨kind, some paren⟩ :: stack.lists, false⟩
      (if kind = .arguments then .arguments else .parentheses) (depth + 1) inner :=
  of_lists rfl (congrArg (· + 1) follows.depth_eq) inner

theorem exists_lists_eq_cons (follows : stack.Follows enclosure depth tokens)
    (inside : enclosure ≠ .document) : ∃ list outer, stack.lists = list :: outer := by
  cases lists : stack.lists with
  | nil =>
      rw [← follows.enclosure_eq, lists] at inside
      exact absurd rfl inside
  | cons list outer => exact ⟨list, outer, rfl⟩

/-- Over what the reader reads, the stack finds where its tokens stand.  Where a list is
left the stack has one list less; where nothing but a semicolon or nothing at all is left,
it does not matter what the stack holds. -/
theorem run_eq {rest : List Token} {nodes : List Node}
    (reads : Reads enclosure depth tokens nodes rest)
    (follows : stack.Follows enclosure depth tokens) :
    stack.run tokens =
      Node.standingsAll stack.lists nodes ++ run ⟨stack.lists.tail, false⟩ rest := by
  induction reads generalizing stack with
  | done => simp [run]
  | leaf isLeaf others ih =>
      rw [run_cons (follows.move_of_role_eq_leaf isLeaf), Node.standingsAll_leaf_cons]
      exact congrArg _ (ih (follows.of_leaf isLeaf))
  | @close enclosure depth token tokens kind inside =>
      obtain ⟨list, outer, lists⟩ := follows.exists_lists_eq_cons inside
      have moves : stack.move token = ⟨.punctuation, list :: outer, outer⟩ := by
        rw [move, kind, lists]
      rw [run_cons moves, kind, lists, Node.standingsAll_leaf_cons, Node.standingsAll_nil]
      rfl
  | stop kind inside =>
      rw [Node.standingsAll_nil, List.nil_append, run_semicolon kind, run_semicolon kind]
  | @list enclosure depth token tokens later rest body nodes kind room inner others innerIh ih =>
      have fresh : stack.afterIdentifier = false := by
        rw [← Bool.not_eq_true]
        intro identifier
        exact Nat.not_lt_of_le (follows.settled identifier (congrArg some kind)) room
      have moves := move_openParen kind (follows.depth_eq ▸ room)
      rw [fresh] at moves
      have inList := innerIh (follows.push .parenthesized token tokens)
      have afterList := ih (of_lists follows.enclosure_eq follows.depth_eq later)
      rw [run_cons moves, kind, Node.standingsAll_list_cons _ (Or.inr rfl), List.cons_append,
        List.append_assoc, ← afterList]
      exact congrArg _ inList
  | @call enclosure depth callee paren tokens later rest body nodes kind opens room inner others
      innerIh ih =>
      have passes : stack.move callee = .stay .identifier stack.lists := by
        rw [move, kind]
      have moves : move ⟨stack.lists, true⟩ paren = _ :=
        move_openParen opens (follows.depth_eq ▸ room)
      have inList := innerIh (follows.push .arguments paren tokens)
      have afterList := ih (of_lists follows.enclosure_eq follows.depth_eq later)
      rw [run_cons passes, kind, Node.standingsAll_call_cons,
        Node.standingsAll_list_cons _ (Or.inl rfl), List.cons_append, List.cons_append,
        List.append_assoc, ← afterList]
      refine congrArg _ ?_
      change run ⟨stack.lists, true⟩ (paren :: tokens) = _
      rw [run_cons moves, opens]
      exact congrArg _ inList

end Follows

/-- An empty stack is in step with the reader in front of a document. -/
theorem follows_document (tokens : List Token) : Follows {} .document 0 tokens :=
  .of_lists rfl rfl tokens

end Stack

namespace Forest

/-- A semicolon ends every list, so those that are read stand at the top of a document. -/
theorem Reads.semicolon_mem {enclosure : Enclosure} {depth : Nat} {tokens rest : List Token}
    {nodes : List Node} (reads : Reads enclosure depth tokens nodes rest) {token : Token}
    (semicolon : token.kind = .semicolon) (member : token ∈ tokens) :
    token ∈ rest ∨ enclosure = .document ∧ .leaf .punctuation token ∈ nodes := by
  induction reads with
  | done => cases member
  | leaf isLeaf others ih =>
      rcases List.mem_cons.mp member with rfl | later
      · right
        rw [semicolon, role] at isLeaf
        split_ifs at isLeaf with document
        cases isLeaf
        exact ⟨document, List.mem_cons_self⟩
      · exact (ih later).imp_right fun ⟨document, found⟩ => ⟨document, List.mem_cons_of_mem _ found⟩
  | close kind inside =>
      rcases List.mem_cons.mp member with rfl | later
      · rw [kind] at semicolon
        cases semicolon
      · exact Or.inl later
  | stop kind inside => exact Or.inl member
  | list kind room inner others innerIh ih =>
      rcases List.mem_cons.mp member with rfl | inList
      · rw [kind] at semicolon
        cases semicolon
      · rcases innerIh inList with behind | ⟨document, -⟩
        · exact (ih behind).imp_right fun ⟨document, found⟩ =>
            ⟨document, List.mem_cons_of_mem _ found⟩
        · cases document
  | call kind opens room inner others innerIh ih =>
      rcases List.mem_cons.mp member with rfl | inCall
      · rw [kind] at semicolon
        cases semicolon
      rcases List.mem_cons.mp inCall with rfl | inList
      · rw [opens] at semicolon
        cases semicolon
      · rcases innerIh inList with behind | ⟨document, -⟩
        · exact (ih behind).imp_right fun ⟨document, found⟩ =>
            ⟨document, List.mem_cons_of_mem _ found⟩
        · cases document

end Forest

namespace SyntaxTree

/-- The tokens of a document stand in its tree where one pass with a stack puts them, and
its semicolons are children of the root. -/
theorem standings_root_parse (source : String) :
    (parse source).root.standings [] = Stack.run {} (Token.scan source.toList) ∧
      ∀ token ∈ Token.scan source.toList, token.kind = .semicolon →
        .leaf .punctuation token ∈ (parse source).root.children := by
  have reads := Forest.reads_read .document 0 (Token.scan source.toList)
  have complete := reads.rest_eq_nil
  constructor
  · have passed := (Stack.follows_document _).run_eq reads
    rw [complete, Stack.run, List.append_nil] at passed
    exact passed.symm
  · intro token member semicolon
    rcases reads.semicolon_mem semicolon member with behind | ⟨-, found⟩
    · rw [complete] at behind
      cases behind
    · exact found

/-- A semicolon stands at the top even where two lists are open in front of it. -/
theorem standings_root_parse_unclosed :
    let tree := parse "f(,(;"
    let callee : Token := ⟨.identifier, "f", ⟨⟨0, ⟨0, 0⟩⟩, ⟨1, ⟨0, 1⟩⟩⟩⟩
    let outer : Token := ⟨.openParen, "(", ⟨⟨1, ⟨0, 1⟩⟩, ⟨2, ⟨0, 2⟩⟩⟩⟩
    let comma : Token := ⟨.comma, ",", ⟨⟨2, ⟨0, 2⟩⟩, ⟨3, ⟨0, 3⟩⟩⟩⟩
    let inner : Token := ⟨.openParen, "(", ⟨⟨3, ⟨0, 3⟩⟩, ⟨4, ⟨0, 4⟩⟩⟩⟩
    let semicolon : Token := ⟨.semicolon, ";", ⟨⟨4, ⟨0, 4⟩⟩, ⟨5, ⟨0, 5⟩⟩⟩⟩
    let arguments : OpenList := ⟨.arguments, some outer⟩
    tree.root.standings [] =
        [⟨callee, .identifier, []⟩, ⟨outer, .punctuation, [arguments]⟩,
          ⟨comma, .punctuation, [arguments]⟩,
          ⟨inner, .punctuation, [⟨.parenthesized, some inner⟩, arguments]⟩,
          ⟨semicolon, .punctuation, []⟩] ∧
      .leaf .punctuation semicolon ∈ tree.root.children := by
  intro tree callee outer comma inner semicolon arguments
  have agreement := standings_root_parse "f(,(;"
  have scanned : Token.scan "f(,(;".toList = [callee, outer, comma, inner, semicolon] := by
    decide +kernel
  rw [scanned] at agreement
  exact ⟨agreement.1, agreement.2 semicolon (by simp) rfl⟩

end SyntaxTree

end SetScript
