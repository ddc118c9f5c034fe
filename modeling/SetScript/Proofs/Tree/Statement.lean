import SetScript.Proofs.Tree.Reading

/-!
# Statements do not affect each other

A semicolon unwinds every open list exactly as the end of the document does, and
leaves no list open.  So reading two texts with a semicolon on a line of its own
between them reads both as if they stood alone: mistakes in one of them, such as
strings without closing quote, open lists, stray tokens and lists that nest too
deep, change nothing in the other.
-/

namespace SetScript

open Text

namespace Forest

/-- A semicolon after a token has no more effect on it than the end of the tokens. -/
theorem role_append_semicolon (enclosure : Enclosure) (depth : Nat) (kind : TokenKind)
    {semicolon : Token} (isSemicolon : semicolon.kind = .semicolon) (tokens more : List Token) :
    role enclosure depth kind ((tokens ++ semicolon :: more).head?.map Token.kind) =
      role enclosure depth kind (tokens.head?.map Token.kind) := by
  cases tokens with
  | nil => cases kind <;> simp [role, isSemicolon]
  | cons token tokens => rfl

namespace Reads

variable {enclosure : Enclosure} {depth : Nat} {tokens rest : List Token} {nodes : List Node}
  {semicolon : Token}

/-- Inside of a list, a semicolon stands for the end of the document. -/
theorem append_semicolon (reads : Reads enclosure depth tokens nodes rest)
    (inside : enclosure ≠ .document) (isSemicolon : semicolon.kind = .semicolon)
    (more : List Token) :
    Reads enclosure depth (tokens ++ semicolon :: more) nodes (rest ++ semicolon :: more) := by
  induction reads with
  | done => exact .stop isSemicolon inside
  | leaf isLeaf others ih =>
      exact .leaf ((role_append_semicolon _ _ _ isSemicolon _ more).trans isLeaf) (ih inside)
  | close kind _ => exact .close kind inside
  | stop kind _ => exact .stop kind inside
  | list kind room inner others innerIh ih =>
      exact .list kind room (innerIh Enclosure.noConfusion) (ih inside)
  | call kind opens room inner others innerIh ih =>
      exact .call kind opens room (innerIh Enclosure.noConfusion) (ih inside)

/-- A document goes on after a semicolon as if the tokens before it were not there. -/
theorem append_statement (reads : Reads .document depth tokens nodes rest)
    (isSemicolon : semicolon.kind = .semicolon) {more later : List Token} {others : List Node}
    (next : Reads .document depth (semicolon :: more) others later) :
    Reads .document depth (tokens ++ semicolon :: more) (nodes ++ others) later := by
  generalize equal : Enclosure.document = enclosure at reads next ⊢
  induction reads with
  | done => exact next
  | leaf isLeaf _ ih =>
      exact .leaf ((role_append_semicolon _ _ _ isSemicolon _ more).trans isLeaf) (ih equal next)
  | close kind inside => exact absurd equal.symm inside
  | stop kind inside => exact absurd equal.symm inside
  | list kind room inner _ _ ih =>
      have unwound := inner.append_semicolon Enclosure.noConfusion isSemicolon more
      exact .list kind room unwound (ih equal next)
  | call kind opens room inner _ _ ih =>
      have unwound := inner.append_semicolon Enclosure.noConfusion isSemicolon more
      exact .call kind opens room unwound (ih equal next)

/-- Moving tokens moves what they are read into. -/
theorem shift (bytes rows : Nat) (reads : Reads enclosure depth tokens nodes rest) :
    Reads enclosure depth (tokens.map (Token.shift bytes rows))
      (nodes.map (Node.shift bytes rows)) (rest.map (Token.shift bytes rows)) := by
  induction reads with
  | done => exact .done
  | @leaf enclosure depth token tokens rest kind nodes isLeaf others ih =>
      have sameNext : (tokens.map (Token.shift bytes rows)).head?.map Token.kind =
          tokens.head?.map Token.kind := by
        cases tokens <;> rfl
      rw [List.map_cons, List.map_cons, Node.shift_leaf]
      refine .leaf ?_ ih
      rw [sameNext]
      exact isLeaf
  | close kind inside =>
      rw [List.map_cons, List.map_singleton, Node.shift_leaf]
      exact .close kind inside
  | stop kind inside => exact .stop kind inside
  | list kind room inner others innerIh ih =>
      rw [List.map_cons, List.map_cons, Node.shift_enclose, Node.shift_leaf]
      exact .list kind room innerIh ih
  | call kind opens room inner others innerIh ih =>
      rw [List.map_cons, List.map_cons, List.map_cons, Node.shift_enclose, Node.shift_leaf,
        List.map_singleton, Node.shift_enclose, Node.shift_leaf]
      exact .call kind opens room innerIh ih

end Reads

/-- Reading tokens with a semicolon between them. -/
theorem ofTokens_append_semicolon (first second : List Token) {semicolon : Token}
    (isSemicolon : semicolon.kind = .semicolon) :
    ofTokens (first ++ semicolon :: second) =
      ofTokens first ++ .leaf .punctuation semicolon :: ofTokens second := by
  have isLeaf : role .document 0 semicolon.kind (second.head?.map Token.kind) =
      .leaf .punctuation := by
    rw [isSemicolon]
    rfl
  have next := Reads.leaf isLeaf (reads_read .document 0 second)
  exact ((reads_read .document 0 first).append_statement isSemicolon next).read_eq.1

/-- Reading moved tokens. -/
theorem ofTokens_map_shift (bytes rows : Nat) (tokens : List Token) :
    ofTokens (tokens.map (Token.shift bytes rows)) =
      (ofTokens tokens).map (Node.shift bytes rows) :=
  ((reads_read .document 0 tokens).shift bytes rows).read_eq.1

end Forest

/-- The token of a semicolon that stands at the start of a row. -/
def Token.semicolonAt (byte row : Nat) : Token :=
  ⟨.semicolon, ";", ⟨⟨byte, ⟨row, 0⟩⟩, ⟨byte + 1, ⟨row, 1⟩⟩⟩⟩

/-- The tokens of two texts with a semicolon on a line of its own between them. -/
theorem Token.scan_append_statement (first second : List Char) :
    scan (first ++ '\n' :: ';' :: '\n' :: second) =
      scan first ++ semicolonAt (utf8Length first + 1) (first.count '\n' + 1) ::
        (scan second).map (shift (utf8Length first + 3) (first.count '\n' + 2)) := by
  have semicolon : scan [';'] = [semicolonAt 0 0] := by decide +kernel
  have line : scan (';' :: '\n' :: second) = semicolonAt 0 0 :: (scan second).map (shift 2 1) := by
    have split := scan_append_newline [';'] second
    rw [semicolon] at split
    exact split
  have moved : shift (utf8Length first + 1) (first.count '\n' + 1) ∘ shift 2 1 =
      shift (utf8Length first + 3) (first.count '\n' + 2) := by
    funext token
    rw [Function.comp_apply, shift_shift, Nat.add_left_comm, Nat.add_left_comm 1]
  have semicolonMoved : shift (utf8Length first + 1) (first.count '\n' + 1) (semicolonAt 0 0) =
      semicolonAt (utf8Length first + 1) (first.count '\n' + 1) := by
    simp [shift, semicolonAt, Span.shift, Mark.shift, Nat.add_comm]
  rw [scan_append_newline, line, List.map_cons, List.map_map, moved, semicolonMoved]

namespace SyntaxTree

/-- The statements of two texts that a semicolon on its own line separates are those of
the first, the semicolon, and those of the second moved down. -/
theorem children_parse_append_statement (first second : String) :
    (parse (first ++ "\n;\n" ++ second)).root.children =
      (parse first).root.children ++
        .leaf .punctuation
            (.semicolonAt (utf8Length first.toList + 1) (first.toList.count '\n' + 1)) ::
          (parse second).root.children.map
            (Node.shift (utf8Length first.toList + 3) (first.toList.count '\n' + 2)) := by
  have content : (first ++ "\n;\n" ++ second).toList =
      first.toList ++ '\n' :: ';' :: '\n' :: second.toList := by
    simp
  change Forest.ofTokens (Token.scan (first ++ "\n;\n" ++ second).toList) = _
  rw [content, Token.scan_append_statement, Forest.ofTokens_append_semicolon _ _ rfl,
    Forest.ofTokens_map_shift]
  rfl

/-- The nodes of two such texts, in document order. -/
theorem descendants_parse_append_statement (first second : String) :
    (parse (first ++ "\n;\n" ++ second)).root.descendants =
      (parse first).root.descendants ++
        .leaf .punctuation
            (.semicolonAt (utf8Length first.toList + 1) (first.toList.count '\n' + 1)) ::
          (parse second).root.descendants.map
            (Node.shift (utf8Length first.toList + 3) (first.toList.count '\n' + 2)) := by
  have content : (first ++ "\n;\n" ++ second).toList =
      first.toList ++ '\n' :: ';' :: '\n' :: second.toList := by
    simp
  simp only [descendants_root_parse]
  rw [content, Token.scan_append_statement, Forest.ofTokens_append_semicolon _ _ rfl,
    Forest.ofTokens_map_shift, Node.traverse_append, Node.traverse_leaf_cons,
    Node.traverse_map_shift]

end SyntaxTree

end SetScript
