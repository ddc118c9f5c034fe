import SetScript.Tree.Node

/-!
# Reading tokens into nodes

The grammar has expressions and semicolons at the top of a document, and
expressions inside lists:

* an identifier right before an opening parenthesis is the callee of a call, and
  the list is its arguments, which commas may separate;
* any other opening parenthesis starts a parenthesized list;
* identifiers, strings and numbers stand for themselves.

Reading never fails.  A token that fits nowhere becomes an error leaf.  A list
without closing parenthesis ends before the next semicolon or at the end of the
document, so a mistake in one statement leaves the others alone.  Lists nest at
most `maxDepth` deep; an opening parenthesis beyond that is an error leaf, and
what follows it stays in the enclosing list.
-/

namespace SetScript

/-- What encloses the nodes that are being read. -/
inductive Enclosure
  | document
  | arguments
  | parentheses
deriving DecidableEq

namespace Forest

/-- The deepest nesting of lists. -/
def maxDepth : Nat :=
  256

/-- The nodes read from the front of a token list, and the tokens after them. -/
structure Reading (tokens : List Token) where
  nodes : List Node
  rest : List Token
  rest_le : rest.length ≤ tokens.length

/-- Put one more node in front of a reading that goes on with later tokens. -/
def Reading.cons {tokens later : List Token} (node : Node) (reading : Reading later)
    (later_le : later.length ≤ tokens.length) : Reading tokens :=
  ⟨node :: reading.nodes, reading.rest, Nat.le_trans reading.rest_le later_le⟩

/-- What the first of some tokens does. -/
inductive Role
  /-- It becomes a leaf of some kind. -/
  | leaf (kind : Kind)
  /-- It opens a parenthesized list. -/
  | list
  /-- It is the callee of a call, and the next token opens the arguments. -/
  | callee
  /-- It closes the list. -/
  | close
  /-- It is left for what encloses the list, and ends the list. -/
  | stop
deriving DecidableEq

/-- The role of a token, given what encloses it, how many lists are open, and the
kind of the token after it. -/
def role (enclosure : Enclosure) (depth : Nat) (kind : TokenKind) (next? : Option TokenKind) :
    Role :=
  match kind with
  | .string => .leaf .string
  | .number => .leaf .number
  | .unknown => .leaf .error
  | .comma => .leaf (if enclosure = .arguments then .punctuation else .error)
  | .semicolon => if enclosure = .document then .leaf .punctuation else .stop
  | .closeParen => if enclosure = .document then .leaf .error else .close
  | .openParen => if depth < maxDepth then .list else .leaf .error
  | .identifier =>
      if next? = some .openParen ∧ depth < maxDepth then .callee else .leaf .identifier

/-- Read nodes up to the end of their enclosure.  `depth` is the number of open
lists.  A list reads its closing parenthesis; a document reads everything. -/
def read (enclosure : Enclosure) (depth : Nat) : (tokens : List Token) → Reading tokens
  | [] => ⟨[], [], Nat.le_refl _⟩
  | token :: tokens =>
      match role enclosure depth token.kind (tokens.head?.map Token.kind) with
      | .leaf kind => (read enclosure depth tokens).cons (.leaf kind token) (Nat.le_succ _)
      | .close => ⟨[.leaf .punctuation token], tokens, Nat.le_succ _⟩
      | .stop => ⟨[], token :: tokens, Nat.le_refl _⟩
      | .list =>
          let body := read .parentheses (depth + 1) tokens
          let list := Node.enclose .parenthesized (.leaf .punctuation token) body.nodes
          (read enclosure depth body.rest).cons list (Nat.le_succ_of_le body.rest_le)
      | .callee =>
          match tokens with
          | [] => ⟨[.leaf .identifier token], [], Nat.zero_le _⟩
          | paren :: inner =>
              let body := read .arguments (depth + 1) inner
              let list := Node.enclose .arguments (.leaf .punctuation paren) body.nodes
              let call := Node.enclose .call (.leaf .identifier token) [list]
              (read enclosure depth body.rest).cons call
                (Nat.le_succ_of_le (Nat.le_succ_of_le body.rest_le))
termination_by tokens => tokens.length
decreasing_by
  · exact Nat.lt_succ_self _
  · exact Nat.lt_succ_self _
  · exact Nat.lt_succ_of_le body.rest_le
  · exact Nat.lt_succ_of_le (Nat.le_succ _)
  · exact Nat.lt_succ_of_le (Nat.le_succ_of_le body.rest_le)

/-- The nodes at the top of a document. -/
def ofTokens (tokens : List Token) : List Node :=
  (read .document 0 tokens).nodes

end Forest

end SetScript
