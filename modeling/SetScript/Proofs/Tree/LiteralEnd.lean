import SetScript.Proofs.Tree.AtPoint

/-!
# The end of a literal

The point right behind a literal is meant to lead to the literal, also where a delimiter
follows directly.  It does whenever the delimiter has a place in the tree: then a sibling
right before the delimiter holds the literal and ends with it, at whatever level the
delimiter stands.

A delimiter that fits nowhere is an error leaf.  Error leaves are named, so a stray
delimiter takes the point and the literal is not found.
-/

namespace SetScript

open Text

/-- A closing delimiter that is not stray is punctuation. -/
theorem Kind.eq_punctuation_of_fits {kind : Kind} {tokenKind : TokenKind}
    (fits : kind.fits tokenKind = true)
    (closes : tokenKind = .closeParen ∨ tokenKind = .comma ∨ tokenKind = .semicolon)
    (notError : kind ≠ .error) : kind = .punctuation := by
  rcases closes with rfl | rfl | rfl <;> cases kind <;> simp [Kind.fits] at fits notError ⊢

namespace Node

/-- A branch starts with an opening parenthesis or with a callee. -/
theorem Formed.exists_head {kind : Kind} {span : Span} {children : List Node}
    (formed : Formed (branch kind span children)) :
    ∃ first, (branch kind span children).leaves.head? = some first ∧
      (first.kind = .openParen ∨ first.kind = .identifier) := by
  cases formed with
  | @parenthesized paren body opens => exact ⟨paren, by simp, Or.inl opens⟩
  | @arguments paren body opens => exact ⟨paren, by simp, Or.inl opens⟩
  | @call callee paren body identifier opens => exact ⟨callee, by simp, Or.inr identifier⟩

/-- A tree that starts with a token that opens nothing is the leaf of that token. -/
theorem eq_leaf_of_start_le {node : Node} (orderly : Orderly [node]) {kind : Kind} {token : Token}
    (member : leaf kind token ∈ traverse [node]) (notOpen : token.kind ≠ .openParen)
    (notCallee : token.kind ≠ .identifier)
    (start : token.span.start.point ≤ node.span.start.point) : node = leaf kind token := by
  cases node with
  | leaf otherKind other =>
      rw [traverse_leaf_cons, traverse_nil, List.mem_singleton] at member
      exact member.symm
  | branch branchKind span children =>
      have formed := orderly.formed _ (mem_traverse_of_mem (List.mem_singleton_self _))
      obtain ⟨first, head, opens⟩ := formed.exists_head
      obtain ⟨rest, leaves⟩ := List.head?_eq_some_iff.mp head
      have firstCovered := (orderly.covers (List.mem_of_mem_head? head)).1.2
      have held := mem_leaves_of_mem_traverse member
      have ordered := orderly.ordered
      rw [List.flatMap_singleton, leaves] at held ordered
      rcases List.mem_cons.mp held with rfl | later
      · exact absurd opens (not_or.mpr ⟨notOpen, notCallee⟩)
      · have proper := (ordered.start_lt_stop first List.mem_cons_self).2
        have behind := ((List.pairwise_cons.mp ordered.pairwise).1 token later).2
        have before := lt_of_lt_of_le proper (le_trans behind (le_trans start firstCovered))
        exact absurd before (lt_irrefl _)

/-- If a token that opens nothing follows a node directly, in a later sibling of the tree
that holds the node, then the sibling is the leaf of the token, it is the next one, and the
tree ends with the node. -/
theorem Orderly.eq_leaf_of_touching {nodes : List Node} (orderly : Orderly nodes)
    {sibling child last : Node} {index place : Nat} {kind : Kind} {token : Token}
    (isSibling : nodes[index]? = some sibling) (isChild : nodes[place]? = some child)
    (before : index < place) (inSibling : last ∈ traverse [sibling])
    (inChild : leaf kind token ∈ traverse [child]) (notOpen : token.kind ≠ .openParen)
    (notCallee : token.kind ≠ .identifier)
    (touches : last.span.stop.point = token.span.start.point) :
    child = leaf kind token ∧ place = index + 1 ∧
      sibling.span.stop.point = last.span.stop.point := by
  have orderlyChild := orderly.single (List.mem_of_getElem? isChild)
  have covered := ((orderly.single (List.mem_of_getElem? isSibling)).span_le inSibling).2.2
  have apart := (orderly.stop_le_start isSibling isChild before).2
  have starts : token.span.start.point ≤ child.span.start.point :=
    le_trans (touches ▸ covered) apart
  obtain rfl := eq_leaf_of_start_le orderlyChild inChild notOpen notCallee starts
  have ends : sibling.span.stop.point = last.span.stop.point :=
    le_antisymm (touches ▸ apart) covered
  have next := orderly.eq_succ_of_touching isSibling isChild before
    (le_of_eq (ends.trans touches).symm)
  exact ⟨rfl, next, ends⟩

/-- A leaf that follows another node directly and opens nothing has a sibling right before it,
which holds that node and ends with it. -/
theorem exists_sibling_before {node last : Node} (orderly : Orderly node.children)
    {path other : Path} {kind : Kind} {token : Token}
    (follows : node.follow? path = some (leaf kind token))
    (lastFollows : node.follow? other = some last) (pathBelow : path ≠ []) (otherBelow : other ≠ [])
    (notOpen : token.kind ≠ .openParen) (notCallee : token.kind ≠ .identifier)
    (touches : last.span.stop.point = token.span.start.point) :
    ∃ above index rest sibling, path = above ++ [index + 1] ∧ other = above ++ index :: rest ∧
      node.follow? (above ++ [index]) = some sibling ∧ sibling.follow? rest = some last ∧
        sibling.span.stop.point = last.span.stop.point := by
  induction path generalizing node other with
  | nil => exact absurd rfl pathBelow
  | cons place path ih =>
      cases other with
      | nil => exact absurd rfl otherBelow
      | cons index other =>
          obtain ⟨child, isChild, childFollows⟩ := Option.bind_eq_some_iff.mp follows
          obtain ⟨sibling, isSibling, siblingFollows⟩ := Option.bind_eq_some_iff.mp lastFollows
          have inChild := mem_traverse_of_follow? childFollows
          have inSibling := mem_traverse_of_follow? siblingFollows
          have orderlyChild := orderly.single (List.mem_of_getElem? isChild)
          have orderlySibling := orderly.single (List.mem_of_getElem? isSibling)
          have tokenProper := (orderlyChild.below inChild).start_lt_stop.2
          have lastProper := (orderlySibling.below inSibling).start_lt_stop.2
          rcases Nat.lt_trichotomy index place with before | rfl | behind
          · obtain ⟨rfl, next, ends⟩ := orderly.eq_leaf_of_touching isSibling isChild before
              inSibling inChild notOpen notCallee touches
            obtain rfl := eq_nil_of_follow?_self childFollows
            refine ⟨[], index, other, sibling, by rw [next]; rfl, rfl, ?_, siblingFollows, ends⟩
            rw [List.nil_append, follow?_singleton]
            exact isSibling
          · obtain rfl : child = sibling := Option.some.inj (isChild.symm.trans isSibling)
            -- Neither node is the child itself, as that would cover the other one.
            have pathGoesOn : path ≠ [] := by
              rintro rfl
              obtain rfl : child = leaf kind token := Option.some.inj childFollows
              have covered := (orderlySibling.span_le inSibling).1.2
              exact absurd (lt_of_le_of_lt covered lastProper) (touches ▸ lt_irrefl _)
            have otherGoesOn : other ≠ [] := by
              rintro rfl
              obtain rfl : child = last := Option.some.inj siblingFollows
              have covered := (orderlyChild.span_le inChild).2.2
              exact absurd (lt_of_lt_of_le tokenProper covered) (touches ▸ lt_irrefl _)
            obtain ⟨above, step, rest, inner, rfl, rfl, isInner, innerFollows, ends⟩ :=
              ih orderlyChild.children childFollows siblingFollows pathGoesOn otherGoesOn
            refine ⟨index :: above, step, rest, inner, rfl, rfl, ?_, innerFollows, ends⟩
            rw [List.cons_append, follow?_cons]
            exact Option.bind_eq_some_iff.mpr ⟨child, isChild, isInner⟩
          · have apart := (orderly.stop_le_start_of_mem isChild isSibling behind inChild inSibling).2
            have ended := lt_of_lt_of_le tokenProper (le_trans apart (le_of_lt lastProper))
            exact absurd ended (touches ▸ lt_irrefl _)

end Node

namespace Cursor

variable {source : String} {cursor : Cursor}

theorem IsLeaf.path_ne_nil {tree : SyntaxTree} (isLeaf : cursor.IsLeaf tree) : cursor.path ≠ [] :=
  fun empty => isLeaf.notRoot (isLeaf.standsIn.path_eq_nil_iff.mp empty)

/-- A leaf among the children of the root is a leaf of the tree. -/
theorem isLeaf_of_child {tree : SyntaxTree} {index : Nat} {kind : Kind} {token : Token}
    (isChild : tree.root.child? index = some (.leaf kind token)) :
    IsLeaf tree ⟨[index], .leaf kind token⟩ where
  standsIn := by
    rw [StandsIn, Node.follow?_singleton]
    exact isChild
  notRoot isRoot := List.cons_ne_nil index [] (congrArg path isRoot)
  childless := rfl

/-- Siblings can be told by their paths. -/
theorem precedes_of_path {tree : SyntaxTree} {sibling : Cursor} {above : Path} {index : Nat}
    (siblingIn : sibling.StandsIn tree) (cursorIn : cursor.StandsIn tree)
    (siblingPath : sibling.path = above ++ [index])
    (cursorPath : cursor.path = above ++ [index + 1]) : sibling.Precedes tree cursor := by
  rw [StandsIn, siblingPath, Node.follow?_append] at siblingIn
  rw [StandsIn, cursorPath, Node.follow?_append] at cursorIn
  obtain ⟨parent, parentIn, isSibling⟩ := Option.bind_eq_some_iff.mp siblingIn
  rw [parentIn, Option.bind_some, Node.follow?_singleton] at cursorIn
  rw [Node.follow?_singleton] at isSibling
  exact ⟨⟨above, parent⟩, index, parentIn, child?_eq_some_iff.mpr ⟨siblingPath, isSibling⟩,
    child?_eq_some_iff.mpr ⟨cursorPath, cursorIn⟩⟩

/-- A leaf contains the point where it starts. -/
theorem IsLeaf.contains_start (isLeaf : cursor.IsLeaf (.parse source)) :
    cursor.node.span.contains cursor.node.span.start.point = true := by
  have member := isLeaf.standsIn.mem_descendants isLeaf.notRoot
  have proper := ((SyntaxTree.orderly_parse source).below member).start_lt_stop
  exact Node.contains_iff.mpr ⟨le_refl _, proper.2⟩

/-- At the end of a named leaf, no leaf contains the point unless one starts there. -/
theorem IsLeaf.outside_of_stop (isLeaf : cursor.IsLeaf (.parse source))
    (noStart : ∀ token ∈ Token.scan source.toList,
      token.span.start.point ≠ cursor.node.span.stop.point) :
    ∀ leaf : Cursor, leaf.IsLeaf (.parse source) →
      leaf.node.span.contains cursor.node.span.stop.point = false := by
  obtain ⟨kind, token, node, -, member⟩ := isLeaf.exists_token
  rw [node] at noStart ⊢
  intro leaf otherLeaf
  obtain ⟨otherKind, other, otherNode, -, otherMember⟩ := otherLeaf.exists_token
  rw [otherNode]
  exact Node.contains_eq_false_of_stop (Token.ordered_scan source.toList) member rfl noStart other
    otherMember

/-- Punctuation that opens nothing leaves the point where it starts to the leaf that ends
there. -/
theorem atPoint_of_punctuation_start {next : Cursor} {token : Token}
    (isLeaf : cursor.IsLeaf (.parse source)) (named : cursor.node.isNamed = true)
    (nextLeaf : next.IsLeaf (.parse source)) (nextNode : next.node = .leaf .punctuation token)
    (notOpen : token.kind ≠ .openParen) (notCallee : token.kind ≠ .identifier)
    (touches : cursor.node.span.stop.point = token.span.start.point) :
    atPoint (.parse source) cursor.node.span.stop.point = cursor := by
  have nextFollows := nextLeaf.standsIn
  rw [StandsIn, nextNode] at nextFollows
  obtain ⟨above, index, rest, sibling, nextPath, path, siblingFollows, follows, ends⟩ :=
    Node.exists_sibling_before (SyntaxTree.orderly_parse source) nextFollows isLeaf.standsIn
      nextLeaf.path_ne_nil isLeaf.path_ne_nil notOpen notCallee touches
  have siblingIn : StandsIn (.parse source) ⟨above ++ [index], sibling⟩ := siblingFollows
  have precedes := precedes_of_path siblingIn nextLeaf.standsIn rfl nextPath
  have below := Node.mem_descendants_of_follow? siblingFollows (by simp)
  have orderly := (SyntaxTree.orderly_parse source).below below
  have contains : next.node.span.contains cursor.node.span.stop.point = true := by
    have start := nextLeaf.contains_start
    rw [nextNode] at start ⊢
    rw [touches]
    exact start
  have entered := locate_of_precedes precedes (by rw [nextNode]; rfl) contains
    (Node.isNamed_of_follow? orderly follows named) ends
  have last := Node.locate_of_stop orderly follows isLeaf.childless ends.symm
  rw [ends] at last
  apply atPoint_eq_of_locate isLeaf.standsIn
  rw [entered, last, path, List.append_assoc, List.singleton_append]

/-- The point at the end of a literal, where no token starts or only a closing parenthesis,
a comma or a semicolon, leads to the literal, unless that token is a stray one.  A stray
token takes the point itself. -/
theorem atPoint_stop_string {literal : Cursor} (isLeaf : literal.IsLeaf (.parse source))
    (string : literal.node.kind = .string)
    (closing : ∀ token ∈ Token.scan source.toList,
      token.span.start.point = literal.node.span.stop.point →
        token.kind = .closeParen ∨ token.kind = .comma ∨ token.kind = .semicolon) :
    let tree := SyntaxTree.parse source
    let point := literal.node.span.stop.point
    (∀ stray : Cursor, stray.IsLeaf tree → stray.node.kind = .error →
        stray.node.span.start.point = point → atPoint tree point = stray) ∧
      ((∀ stray : Cursor, stray.IsLeaf tree → stray.node.kind = .error →
        stray.node.span.start.point ≠ point) → atPoint tree point = literal) := by
  intro tree point
  constructor
  · intro stray strayLeaf error start
    have named : stray.node.isNamed = true := by
      rw [Node.isNamed, error]
      rfl
    exact atPoint_of_contains strayLeaf named (start ▸ strayLeaf.contains_start)
  · intro noStray
    by_cases starts : ∃ token ∈ Token.scan source.toList, token.span.start.point = point
    · obtain ⟨token, member, start⟩ := starts
      obtain ⟨next, kind, nextLeaf, node, fits⟩ := exists_isLeaf member
      have closes := closing token member start
      have notError : kind ≠ .error := by
        rintro rfl
        exact noStray next nextLeaf (by rw [node]; rfl) (by rw [node]; exact start)
      obtain rfl := Kind.eq_punctuation_of_fits fits closes notError
      have named : literal.node.isNamed = true := by
        rw [Node.isNamed, string]
        rfl
      apply atPoint_of_punctuation_start isLeaf named nextLeaf node _ _ start.symm
      · intro opens
        simp [opens] at closes
      · intro isCallee
        simp [isCallee] at closes
    · push Not at starts
      exact atPoint_of_stop (isLeaf.outside_of_stop starts) isLeaf rfl

/-- In `f('x';` the list is left open, and its literal is found at its end. -/
theorem atPoint_stop_string_unclosed :
    let name : Token := ⟨.string, "'x'", ⟨⟨2, ⟨0, 2⟩⟩, ⟨5, ⟨0, 5⟩⟩⟩⟩
    (atPoint (.parse "f('x';") ⟨0, 5⟩).node = .leaf .string name := by
  intro name
  let callee : Token := ⟨.identifier, "f", ⟨⟨0, ⟨0, 0⟩⟩, ⟨1, ⟨0, 1⟩⟩⟩⟩
  let opening : Token := ⟨.openParen, "(", ⟨⟨1, ⟨0, 1⟩⟩, ⟨2, ⟨0, 2⟩⟩⟩⟩
  let semicolon : Token := ⟨.semicolon, ";", ⟨⟨5, ⟨0, 5⟩⟩, ⟨6, ⟨0, 6⟩⟩⟩⟩
  have scanned : Token.scan "f('x';".toList = [callee, opening, name, semicolon] := by
    decide +kernel
  have onlySemicolon : ∀ token ∈ Token.scan "f('x';".toList,
      token.span.start.point = ⟨0, 5⟩ → token.kind = .semicolon := by
    rw [scanned]
    decide
  have member : name ∈ Token.scan "f('x';".toList := by
    rw [scanned]
    simp
  obtain ⟨literal, kind, isLeaf, node, fits⟩ := exists_isLeaf member
  obtain rfl := (Kind.eq_string_iff_of_fits fits).mpr rfl
  have stop : literal.node.span.stop.point = ⟨0, 5⟩ := by
    rw [node]
    rfl
  have found := (atPoint_stop_string isLeaf (by rw [node]; rfl) fun token member start =>
    Or.inr (Or.inr (onlySemicolon token member (start.trans stop)))).2
  rw [stop] at found
  rw [found, node]
  intro stray strayLeaf error start
  obtain ⟨strayKind, token, strayNode, strayFits, member⟩ := strayLeaf.exists_token
  rw [strayNode] at error start
  -- No error leaf holds a semicolon.
  rw [onlySemicolon token member start] at strayFits
  obtain rfl : strayKind = .error := error
  cases strayFits

/-- In `"x")` the parenthesis closes nothing, and the point between the literal and the
parenthesis leads to the parenthesis. -/
theorem atPoint_ne_string_of_stray :
    let tree := SyntaxTree.parse "\"x\")"
    let name : Token := ⟨.string, "\"x\"", ⟨⟨0, ⟨0, 0⟩⟩, ⟨3, ⟨0, 3⟩⟩⟩⟩
    let paren : Token := ⟨.closeParen, ")", ⟨⟨3, ⟨0, 3⟩⟩, ⟨4, ⟨0, 4⟩⟩⟩⟩
    let literal : Cursor := ⟨[0], .leaf .string name⟩
    literal.IsLeaf tree ∧
      (∀ token ∈ Token.scan tree.content,
        token.span.start.point = literal.node.span.stop.point → token.kind = .closeParen) ∧
      atPoint tree literal.node.span.stop.point = ⟨[1], .leaf .error paren⟩ ∧
      atPoint tree literal.node.span.stop.point ≠ literal := by
  intro tree name paren literal
  have scanned : Token.scan tree.content = [name, paren] := by decide +kernel
  have reads : Forest.Reads .document 0 [name, paren] _ [] := .leaf rfl (.leaf rfl .done)
  have children : tree.root.children = [.leaf .string name, .leaf .error paren] := by
    rw [← reads.read_eq.1, ← scanned]
    rfl
  have isLeaf : literal.IsLeaf tree := isLeaf_of_child (by rw [Node.child?, children]; rfl)
  have strayLeaf : IsLeaf tree ⟨[1], .leaf .error paren⟩ :=
    isLeaf_of_child (by rw [Node.child?, children]; rfl)
  have found : atPoint tree literal.node.span.stop.point = ⟨[1], .leaf .error paren⟩ :=
    atPoint_of_contains strayLeaf rfl strayLeaf.contains_start
  refine ⟨isLeaf, ?_, found, ?_⟩
  · rw [scanned]
    decide
  · rw [found]
    intro same
    have paths : [1] = [0] := congrArg path same
    cases paths

end Cursor

end SetScript
