import Mathlib.Logic.Relation
import SetScript.Proofs.Tree.Builder

/-!
# Reading task by task

A parser has the tokens that are left, a counter of the open lists, and a builder.  What is to be
done with it is a list of tasks.  A task changes the parser, or it is a rule of the grammar and puts
the tasks of its body in its place, which it chooses by the next tokens.  The body of a loop ends
with the loop.

The counter of the parser and the open nodes of the builder are told nothing of each other, and a
node is closed whether or not one was opened.  What keeps them in step is the order of the tasks:
`Task.Ready` says what holds of a parser in front of each task, and a list of tasks is done in order
when this is so in front of every one of them, down to those of the innermost rule.
-/

namespace SetScript

open Forest

/-- A reader in the middle of its work. -/
structure Parser where
  rest : List Token
  depth : Nat
  builder : Builder

namespace Parser

/-- The kind of the next token. -/
def peek (parser : Parser) : Option TokenKind :=
  parser.rest.head?.map Token.kind

/-- The kind of the token after the next one. -/
def peekSecond (parser : Parser) : Option TokenKind :=
  parser.rest.tail.head?.map Token.kind

end Parser

/-- The kinds of tokens that an expression starts with. -/
def TokenKind.startsExpression : TokenKind → Bool
  | .identifier | .string | .number | .openParen => true
  | _ => false

/-- What a parser does. -/
inductive Task
  /-- Take the next token as a leaf. -/
  | take (kind : Kind)
  /-- Open a node where the next token starts. -/
  | openNode (kind : Kind)
  /-- Close the innermost open node. -/
  | close
  /-- Count one open list more. -/
  | deepen
  /-- Count one open list less. -/
  | rise
  /-- Read the rest of the document. -/
  | program
  | expression
  /-- Read an expression where no more list may be opened. -/
  | flatExpression
  | call
  /-- Read a list from its opening parenthesis on, into the node that was opened for it. -/
  | delimited (commas : Bool)
  /-- Read the rest of a list, item by item. -/
  | items (commas : Bool)

namespace Task

/-- What a task does to the parser by itself. -/
def effect (task : Task) (parser : Parser) : Parser :=
  match task, parser.rest with
  | take kind, token :: rest =>
      { parser with rest := rest, builder := parser.builder.leaf kind token.span }
  | openNode kind, token :: _ =>
      { parser with builder := parser.builder.openNode kind token.span }
  | close, _ => { parser with builder := parser.builder.close }
  | deepen, _ => { parser with depth := parser.depth + 1 }
  | rise, _ => { parser with depth := parser.depth - 1 }
  | _, _ => parser

/-- The tasks that a rule stands for. -/
def body (task : Task) (parser : Parser) : List Task :=
  match task with
  | program =>
      match parser.peek with
      | none => []
      | some .semicolon => [take .punctuation, program]
      | some kind =>
          if kind.startsExpression then [expression, program] else [take .error, program]
  | expression =>
      if maxDepth ≤ parser.depth then
        [flatExpression]
      else
        match parser.peek with
        | some .identifier =>
            if parser.peekSecond = some .openParen then [call] else [take .identifier]
        | some .string => [take .string]
        | some .number => [take .number]
        | some .openParen => [openNode .parenthesized, delimited false, close]
        | _ => []
  | flatExpression =>
      match parser.peek with
      | some .identifier => [take .identifier]
      | some .string => [take .string]
      | some .number => [take .number]
      | some _ => [take .error]
      | none => []
  | call =>
      [openNode .call, take .identifier, openNode .arguments, delimited true, close, close]
  | delimited commas => [take .punctuation, deepen, items commas, rise]
  | items commas =>
      match parser.peek with
      | some .closeParen => [take .punctuation]
      | some .comma => [take (if commas then .punctuation else .error), items commas]
      | some .semicolon | none => []
      | some kind =>
          if kind.startsExpression then [expression, items commas] else [take .error, items commas]
  | take _ | openNode _ | close | deepen | rise => []

end Task

/-- A parser and what is still to be done with it. -/
structure Progress where
  parser : Parser
  tasks : List Task

namespace Progress

/-- A document of which nothing was read. -/
def start (tokens : List Token) : Progress :=
  ⟨⟨tokens, 0, .root⟩, [.program]⟩

/-- Turn to the first task. -/
def step : Progress → Option Progress
  | ⟨_, []⟩ => none
  | ⟨parser, task :: later⟩ => some ⟨task.effect parser, task.body parser ++ later⟩

/-- One step leads from one progress to the other. -/
def Steps (before after : Progress) : Prop :=
  before.step = some after

end Progress

/-! ## What holds in front of a task -/

/-- The counter of a parser tells the number of open lists, and these are no more than allowed. -/
structure Parser.Settled (parser : Parser) : Prop where
  proper : parser.builder.Proper
  openLists_eq : parser.builder.openLists = parser.depth
  depth_le : parser.depth ≤ maxDepth

namespace Task

/-- The kind of the node that a list is read into. -/
def listKind (commas : Bool) : Kind :=
  if commas then .arguments else .parenthesized

/-- What a task asks of a parser. -/
def Asks (task : Task) (parser : Parser) : Prop :=
  match task with
  | take _ | openNode _ => parser.rest ≠ []
  | close => parser.builder.Closable
  | deepen => parser.depth < maxDepth
  | rise => 0 < parser.depth
  | program => parser.Settled ∧ parser.builder.openNodes = [0]
  | expression => parser.Settled ∧ parser.peek.any TokenKind.startsExpression
  | flatExpression =>
      parser.Settled ∧ parser.peek.any TokenKind.startsExpression ∧ parser.depth = maxDepth
  | call =>
      parser.Settled ∧ parser.peek = some .identifier ∧ parser.peekSecond = some .openParen ∧
        parser.depth < maxDepth
  | delimited commas =>
      parser.peek = some .openParen ∧ parser.depth < maxDepth ∧
        ∃ outer span, parser.builder = outer.openNode (listKind commas) span ∧
          (Parser.mk parser.rest parser.depth outer).Settled
  | items _ => parser.Settled

/-- A task can be turned to. -/
structure Ready (task : Task) (parser : Parser) : Prop where
  asks : task.Asks parser
  depth_le : parser.depth ≤ maxDepth

end Task

/-- One step leads from one progress to the other, and its task can be turned to. -/
def Progress.StepsReady (before after : Progress) : Prop :=
  before.Steps after ∧ ∀ task ∈ before.tasks.head?, task.Ready before.parser

/-- Doing some tasks leads from one parser to another, whatever is to be done later, and each of
them can be turned to when it is its turn, as can each task that comes up on the way. -/
def Performs (tasks : List Task) (before after : Parser) : Prop :=
  ∀ later, Relation.ReflTransGen Progress.StepsReady ⟨before, tasks ++ later⟩ ⟨after, later⟩

namespace Performs

variable {task : Task} {tasks more : List Task} {before middle after : Parser}

theorem nil (parser : Parser) : Performs [] parser parser :=
  fun _ => .refl

theorem cons (first : Performs [task] before middle) (others : Performs tasks middle after) :
    Performs (task :: tasks) before after :=
  fun later => (first (tasks ++ later)).trans (others later)

theorem append (first : Performs tasks before middle) (others : Performs more middle after) :
    Performs (tasks ++ more) before after := by
  intro later
  rw [List.append_assoc]
  exact (first (more ++ later)).trans (others later)

/-- A rule is done when its body is. -/
theorem of_body (ready : task.Ready before)
    (inner : Performs (task.body before) (task.effect before) after) :
    Performs [task] before after := by
  intro later
  refine .head ⟨rfl, ?_⟩ (inner later)
  rintro _ ⟨⟩
  exact ready

variable {builder : Builder} {depth : Nat}

/-- A token that is taken is grafted as a leaf. -/
theorem take (proper : builder.Proper) (inside : depth ≤ maxDepth) (kind : Kind) (token : Token)
    (rest : List Token) :
    Performs [.take kind] ⟨token :: rest, depth, builder⟩
      ⟨rest, depth, builder.graft [.leaf kind token]⟩ := by
  rw [← proper.leaf_eq_graft]
  exact of_body ⟨List.cons_ne_nil token rest, inside⟩ (nil _)

theorem openNode (inside : depth ≤ maxDepth) (kind : Kind) (token : Token) (rest : List Token)
    (builder : Builder) :
    Performs [.openNode kind] ⟨token :: rest, depth, builder⟩
      ⟨token :: rest, depth, builder.openNode kind token.span⟩ :=
  of_body ⟨List.cons_ne_nil token rest, inside⟩ (nil _)

/-- A node that was opened at a token and filled is closed around its children. -/
theorem close (proper : builder.Proper) (inside : depth ≤ maxDepth) (kind leafKind : Kind)
    (token : Token) (others : List Node) (rest : List Token) :
    Performs [.close]
      ⟨rest, depth, (builder.openNode kind token.span).graft (.leaf leafKind token :: others)⟩
      ⟨rest, depth, builder.graft [.enclose kind (.leaf leafKind token) others]⟩ := by
  rw [← proper.close_graft_openNode kind token.span (.leaf leafKind token) others rfl]
  exact of_body ⟨proper.closable_graft_openNode kind token.span _ others, inside⟩ (nil _)

theorem deepen (room : depth < maxDepth) (rest : List Token) (builder : Builder) :
    Performs [.deepen] ⟨rest, depth, builder⟩ ⟨rest, depth + 1, builder⟩ :=
  of_body ⟨room, room.le⟩ (nil _)

theorem rise (room : depth < maxDepth) (rest : List Token) (builder : Builder) :
    Performs [.rise] ⟨rest, depth + 1, builder⟩ ⟨rest, depth, builder⟩ :=
  of_body ⟨Nat.succ_pos depth, room⟩ (nil _)

end Performs

/-! ## Rules -/

namespace Parser.Settled

variable {builder : Builder} {depth : Nat} {tokens : List Token}

/-- What is grafted leaves the open lists alone, and so does taking tokens. -/
theorem graft (settled : Settled ⟨tokens, depth, builder⟩) (nodes : List Node)
    (rest : List Token) : Settled ⟨rest, depth, builder.graft nodes⟩ where
  proper := settled.proper.graft nodes
  openLists_eq := (settled.proper.openLists_graft nodes).trans settled.openLists_eq
  depth_le := settled.depth_le

/-- A call is no list. -/
theorem openCall (settled : Settled ⟨tokens, depth, builder⟩) (span : Text.Span)
    (rest : List Token) : Settled ⟨rest, depth, builder.openNode .call span⟩ where
  proper := settled.proper.openNode .call span
  openLists_eq := (settled.proper.openLists_openNode .call span).trans settled.openLists_eq
  depth_le := settled.depth_le

/-- Opening the node of a list and counting the list go together. -/
theorem openList (settled : Settled ⟨tokens, depth, builder⟩) (room : depth < maxDepth)
    (commas : Bool) (span : Text.Span) (rest : List Token) :
    Settled ⟨rest, depth + 1, builder.openNode (Task.listKind commas) span⟩ where
  proper := settled.proper.openNode _ span
  openLists_eq := by
    rw [settled.proper.openLists_openNode, settled.openLists_eq]
    cases commas <;> rfl
  depth_le := room

end Parser.Settled

namespace Task

section Leaf

variable {token : Token} {tokens : List Token} {enclosure : Enclosure} {depth : Nat} {kind : Kind}

/-- Where no more list may be opened, an opening parenthesis is an error. -/
theorem body_flatExpression (starts : token.kind.startsExpression) (full : maxDepth ≤ depth)
    (isLeaf : role enclosure depth token.kind (tokens.head?.map Token.kind) = .leaf kind)
    (builder : Builder) :
    flatExpression.body ⟨token :: tokens, depth, builder⟩ = [take kind] := by
  cases tokenKind : token.kind <;> rw [tokenKind] at isLeaf starts
  case string | number =>
    cases isLeaf
    simp [body, Parser.peek, tokenKind]
  case identifier =>
    rw [role, if_neg fun callee => Nat.not_lt_of_le full callee.2] at isLeaf
    cases isLeaf
    simp [body, Parser.peek, tokenKind]
  case openParen =>
    rw [role, if_neg (Nat.not_lt_of_le full)] at isLeaf
    cases isLeaf
    simp [body, Parser.peek, tokenKind]
  all_goals cases starts

/-- An identifier that is no callee, and a literal, are taken as they are. -/
theorem body_expression (starts : token.kind.startsExpression) (room : depth < maxDepth)
    (isLeaf : role enclosure depth token.kind (tokens.head?.map Token.kind) = .leaf kind)
    (builder : Builder) :
    expression.body ⟨token :: tokens, depth, builder⟩ = [take kind] := by
  have inside : ¬ maxDepth ≤ depth := Nat.not_le_of_lt room
  cases tokenKind : token.kind <;> rw [tokenKind] at isLeaf starts
  case string | number =>
    cases isLeaf
    simp [body, Parser.peek, tokenKind, inside]
  case identifier =>
    rw [role] at isLeaf
    split_ifs at isLeaf with callee
    cases isLeaf
    have noCall : (Parser.mk (token :: tokens) depth builder).peekSecond ≠ some .openParen :=
      fun opens => callee ⟨opens, room⟩
    simp [body, Parser.peek, tokenKind, inside, noCall]
  case openParen =>
    rw [role, if_pos room] at isLeaf
    cases isLeaf
  all_goals cases starts

end Leaf

end Task

/-- Where it can be turned to, a task reads some tokens into nodes, up to the rest of them. -/
def Task.Grafts (task : Task) (depth : Nat) (tokens : List Token) (nodes : List Node)
    (rest : List Token) : Prop :=
  ∀ builder, task.Asks ⟨tokens, depth, builder⟩ →
    Performs [task] ⟨tokens, depth, builder⟩ ⟨rest, depth, builder.graft nodes⟩

namespace Task.Grafts

variable {depth : Nat} {tokens rest : List Token} {body : List Node} {commas : Bool}

/-- A list leaves the counter as it was, and the node that was opened for it open. -/
theorem delimited (inner : (items commas).Grafts (depth + 1) tokens body rest) (paren : Token) :
    (delimited commas).Grafts depth (paren :: tokens) (.leaf .punctuation paren :: body) rest := by
  rintro _ ⟨opens, room, outer, span, rfl, settled⟩
  have opened := settled.openList room commas span (paren :: tokens)
  have taken := opened.graft [.leaf .punctuation paren] tokens
  have read := inner _ taken
  rw [opened.proper.graft_graft] at read
  have ready : (Task.delimited commas).Ready
      ⟨paren :: tokens, depth, outer.openNode (listKind commas) span⟩ :=
    ⟨⟨opens, room, outer, span, rfl, settled⟩, settled.depth_le⟩
  exact .of_body ready
    (.cons (.take opened.proper settled.depth_le .punctuation paren tokens)
      (.cons (.deepen room _ _) (.cons read (.rise room _ _))))

/-- A node is opened for a list, which is read into it, and is closed again. -/
theorem list (inner : (items commas).Grafts (depth + 1) tokens body rest) {paren : Token}
    (opens : paren.kind = .openParen) (room : depth < maxDepth) {builder : Builder}
    (settled : Parser.Settled ⟨paren :: tokens, depth, builder⟩) :
    Performs [openNode (listKind commas), .delimited commas, close]
      ⟨paren :: tokens, depth, builder⟩
      ⟨rest, depth,
        builder.graft [.enclose (listKind commas) (.leaf .punctuation paren) body]⟩ := by
  have read := inner.delimited paren _
    ⟨congrArg some opens, room, builder, paren.span, rfl, settled⟩
  have closed := Performs.close settled.proper settled.depth_le (listKind commas) .punctuation paren
    body rest
  exact .cons (.openNode settled.depth_le _ paren tokens builder) (.cons read closed)

/-- The callee and its arguments are read into a node of their own. -/
theorem call (inner : (items true).Grafts (depth + 1) tokens body rest) {paren : Token}
    (opens : paren.kind = .openParen) (callee : Token) :
    call.Grafts depth (callee :: paren :: tokens)
      [.enclose .call (.leaf .identifier callee)
        [.enclose .arguments (.leaf .punctuation paren) body]] rest := by
  intro builder asks
  have ready : Task.call.Ready ⟨callee :: paren :: tokens, depth, builder⟩ :=
    ⟨asks, asks.1.depth_le⟩
  obtain ⟨settled, -, -, room⟩ := asks
  have opened := settled.openCall callee.span (callee :: paren :: tokens)
  have arguments := inner.list opens room
    (opened.graft [.leaf .identifier callee] (paren :: tokens))
  rw [opened.proper.graft_graft] at arguments
  have closed := Performs.close settled.proper settled.depth_le .call .identifier callee
    [.enclose .arguments (.leaf .punctuation paren) body] rest
  exact .of_body ready
    (.cons (.openNode settled.depth_le .call callee (paren :: tokens) builder)
      (.cons (.take opened.proper settled.depth_le .identifier callee (paren :: tokens))
        (arguments.append closed)))

theorem expression_list (inner : (items false).Grafts (depth + 1) tokens body rest) {paren : Token}
    (opens : paren.kind = .openParen) (room : depth < maxDepth) :
    expression.Grafts depth (paren :: tokens)
      [.enclose .parenthesized (.leaf .punctuation paren) body] rest := by
  intro builder asks
  have chosen : expression.body ⟨paren :: tokens, depth, builder⟩ =
      [openNode .parenthesized, .delimited false, close] := by
    simp [Task.body, Parser.peek, opens, Nat.not_le_of_lt room]
  apply Performs.of_body ⟨asks, asks.1.depth_le⟩
  rw [chosen]
  exact inner.list opens room asks.1

theorem expression_call (inner : (items true).Grafts (depth + 1) tokens body rest)
    {callee paren : Token} (identifier : callee.kind = .identifier)
    (opens : paren.kind = .openParen) (room : depth < maxDepth) :
    expression.Grafts depth (callee :: paren :: tokens)
      [.enclose .call (.leaf .identifier callee)
        [.enclose .arguments (.leaf .punctuation paren) body]] rest := by
  intro builder asks
  have chosen : expression.body ⟨callee :: paren :: tokens, depth, builder⟩ = [.call] := by
    simp [Task.body, Parser.peek, Parser.peekSecond, identifier, opens, Nat.not_le_of_lt room]
  apply Performs.of_body ⟨asks, asks.1.depth_le⟩
  rw [chosen]
  exact inner.call opens callee builder
    ⟨asks.1, congrArg some identifier, congrArg some opens, room⟩

/-- A token that becomes a leaf is taken, also where no more list may be opened. -/
theorem expression_leaf {token : Token} {enclosure : Enclosure} {kind : Kind}
    (isLeaf : role enclosure depth token.kind (tokens.head?.map Token.kind) = .leaf kind) :
    expression.Grafts depth (token :: tokens) [.leaf kind token] tokens := by
  intro builder asks
  have taken := Performs.take asks.1.proper asks.1.depth_le kind token tokens
  apply Performs.of_body ⟨asks, asks.1.depth_le⟩
  by_cases full : maxDepth ≤ depth
  · have chosen : expression.body ⟨token :: tokens, depth, builder⟩ = [flatExpression] :=
      if_pos full
    have ready : flatExpression.Ready ⟨token :: tokens, depth, builder⟩ :=
      ⟨⟨asks.1, asks.2, Nat.le_antisymm asks.1.depth_le full⟩, asks.1.depth_le⟩
    rw [chosen]
    apply Performs.of_body ready
    rw [body_flatExpression asks.2 full isLeaf]
    exact taken
  · rw [body_expression asks.2 (Nat.lt_of_not_le full) isLeaf]
    exact taken

end Task.Grafts

end SetScript
