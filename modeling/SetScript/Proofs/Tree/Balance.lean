import SetScript.Proofs.Tree.Tasks

/-!
# Opening and closing in balance

Whatever the tokens are, the tasks of a document come to their end, and every task that comes up on
the way can be turned to.  So the counter of the parser tells the number of open lists whenever an
item of a list is read, it never falls below zero, and what is closed is a node below the root that
has a child.  A rule that is called leaves the counter and the open nodes as it finds them and takes
at least one token.  When everything is read, only the root is open, and the records are those of
the tree that reading by recursion gives.

The invariant is carried by induction over the ways to read: a loop over items grafts the nodes that
are read, and after each of them it can be turned to again.
-/

namespace SetScript

open Forest Relation

/-! ## Loops -/

/-- The loop that reads what is enclosed. -/
def Enclosure.loop : Enclosure → Task
  | document => .program
  | arguments => .items true
  | parentheses => .items false

namespace Enclosure

variable {enclosure : Enclosure} {depth : Nat} {builder : Builder} {token : Token}
  {tokens rest later : List Token}

theorem settled_of_asks (asks : enclosure.loop.Asks ⟨tokens, depth, builder⟩) :
    Parser.Settled ⟨tokens, depth, builder⟩ := by
  cases enclosure with
  | document => exact asks.1
  | arguments | parentheses => exact asks

/-- After some nodes a loop can be turned to again. -/
theorem asks_graft (asks : enclosure.loop.Asks ⟨tokens, depth, builder⟩) (nodes : List Node)
    (rest : List Token) : enclosure.loop.Asks ⟨rest, depth, builder.graft nodes⟩ := by
  cases enclosure with
  | document => exact ⟨asks.1.graft nodes rest, asks.2⟩
  | arguments | parentheses => exact asks.graft nodes rest

/-- A loop turns to an expression where one starts. -/
theorem body_loop_of_starts (starts : token.kind.startsExpression) :
    enclosure.loop.body ⟨token :: tokens, depth, builder⟩ = [.expression, enclosure.loop] := by
  cases tokenKind : token.kind <;> rw [tokenKind] at starts
  case identifier | string | number | openParen =>
    cases enclosure <;> simp [loop, Task.body, Parser.peek, tokenKind, TokenKind.startsExpression]
  all_goals cases starts

/-- A loop takes another token itself, as the leaf that it becomes. -/
theorem body_loop_of_leaf (noStart : ¬ token.kind.startsExpression) {next? : Option TokenKind}
    {kind : Kind} (isLeaf : role enclosure depth token.kind next? = .leaf kind) :
    enclosure.loop.body ⟨token :: tokens, depth, builder⟩ = [.take kind, enclosure.loop] := by
  cases tokenKind : token.kind <;> rw [tokenKind] at isLeaf noStart
  case identifier | string | number | openParen => exact absurd rfl noStart
  case unknown | comma | semicolon | closeParen =>
    cases enclosure <;> cases isLeaf <;>
      simp [loop, Task.body, Parser.peek, tokenKind, TokenKind.startsExpression]

/-- A list takes its closing parenthesis. -/
theorem body_loop_of_close (closes : token.kind = .closeParen) (inside : enclosure ≠ .document) :
    enclosure.loop.body ⟨token :: tokens, depth, builder⟩ = [.take .punctuation] := by
  cases enclosure with
  | document => exact absurd rfl inside
  | arguments | parentheses => simp [loop, Task.body, Parser.peek, closes]

/-- A list leaves a semicolon alone. -/
theorem body_loop_of_stop (stops : token.kind = .semicolon) (inside : enclosure ≠ .document) :
    enclosure.loop.body ⟨token :: tokens, depth, builder⟩ = [] := by
  cases enclosure with
  | document => exact absurd rfl inside
  | arguments | parentheses => simp [loop, Task.body, Parser.peek, stops]

/-- A loop is done when its body is: by itself it changes nothing. -/
theorem performs_loop {after : Parser} (asks : enclosure.loop.Asks ⟨tokens, depth, builder⟩)
    (inner : Performs (enclosure.loop.body ⟨tokens, depth, builder⟩) ⟨tokens, depth, builder⟩
      after) : Performs [enclosure.loop] ⟨tokens, depth, builder⟩ after := by
  apply Performs.of_body ⟨asks, (settled_of_asks asks).depth_le⟩
  cases enclosure <;> exact inner

/-- A loop over a node and what comes after it. -/
theorem grafts_cons {task : Task} {node : Node} {nodes : List Node}
    (chosen : ∀ builder,
      enclosure.loop.body ⟨tokens, depth, builder⟩ = [task, enclosure.loop])
    (first : ∀ builder, Parser.Settled ⟨tokens, depth, builder⟩ →
      Performs [task] ⟨tokens, depth, builder⟩ ⟨later, depth, builder.graft [node]⟩)
    (others : enclosure.loop.Grafts depth later nodes rest) :
    enclosure.loop.Grafts depth tokens (node :: nodes) rest := by
  intro builder asks
  have settled := settled_of_asks asks
  have remaining := others _ (asks_graft asks [node] later)
  rw [settled.proper.graft_graft] at remaining
  apply performs_loop asks
  rw [chosen]
  exact .cons (first builder settled) remaining

end Enclosure

namespace Forest.Reads

open Enclosure

variable {enclosure : Enclosure} {depth : Nat} {tokens rest : List Token} {nodes : List Node}

/-- A loop grafts what reading by recursion gives, and leaves the same tokens. -/
theorem grafts_loop (reads : Reads enclosure depth tokens nodes rest) :
    enclosure.loop.Grafts depth tokens nodes rest := by
  -- What is read before the rest of a loop leaves the open nodes alone, so the induction can go on
  -- with the builder that it has been grafted into.
  induction reads with
  | @done enclosure depth =>
      intro builder asks
      have chosen : enclosure.loop.body ⟨[], depth, builder⟩ = [] := by
        cases enclosure <;> rfl
      apply performs_loop asks
      rw [chosen, Builder.graft_nil]
      exact .nil _
  | @leaf enclosure depth token tokens rest kind nodes isLeaf others ih =>
      by_cases starts : token.kind.startsExpression
      · exact grafts_cons (fun _ => body_loop_of_starts starts)
          (fun builder settled => Task.Grafts.expression_leaf isLeaf builder ⟨settled, starts⟩) ih
      · exact grafts_cons (fun _ => body_loop_of_leaf starts isLeaf)
          (fun builder settled => .take settled.proper settled.depth_le kind token tokens) ih
  | @close enclosure depth token tokens kind inside =>
      intro builder asks
      have settled := settled_of_asks asks
      apply performs_loop asks
      rw [body_loop_of_close kind inside]
      exact .take settled.proper settled.depth_le .punctuation token tokens
  | @stop enclosure depth token tokens kind inside =>
      intro builder asks
      apply performs_loop asks
      rw [body_loop_of_stop kind inside, Builder.graft_nil]
      exact .nil _
  | list opens room inner others innerIh ih =>
      have starts : TokenKind.startsExpression .openParen := rfl
      rw [← opens] at starts
      exact grafts_cons (fun _ => body_loop_of_starts starts)
        (fun builder settled => innerIh.expression_list opens room builder ⟨settled, starts⟩) ih
  | call identifier opens room inner others innerIh ih =>
      have starts : TokenKind.startsExpression .identifier := rfl
      rw [← identifier] at starts
      exact grafts_cons (fun _ => body_loop_of_starts starts)
        (fun builder settled =>
          innerIh.expression_call identifier opens room builder ⟨settled, starts⟩) ih

end Forest.Reads

/-! ## Calls -/

theorem Performs.runs {tasks : List Task} {before after : Parser}
    (performs : Performs tasks before after) (later : List Task) :
    ReflTransGen Progress.Steps ⟨before, tasks ++ later⟩ ⟨after, later⟩ :=
  ReflTransGen.mono (fun _ _ isStep => isStep.1) _ _ (performs later)

namespace Task

variable {depth : Nat} {tokens : List Token} {builder : Builder}

/-- A task reads some of the tokens into nodes, and at least one of them. -/
def Advances (task : Task) (depth : Nat) (tokens : List Token) : Prop :=
  ∃ nodes taken rest, taken ≠ [] ∧ tokens = taken ++ rest ∧ task.Grafts depth tokens nodes rest

/-- What encloses the items of a list. -/
def listEnclosure (commas : Bool) : Enclosure :=
  if commas then .arguments else .parentheses

/-- The loop over the items of a list reads what reading by recursion does. -/
theorem items_grafts (commas : Bool) (depth : Nat) (tokens : List Token) :
    (items commas).Grafts depth tokens (read (listEnclosure commas) depth tokens).nodes
      (read (listEnclosure commas) depth tokens).rest := by
  have loop : (listEnclosure commas).loop = items commas := by
    cases commas <;> rfl
  exact loop ▸ (reads_read (listEnclosure commas) depth tokens).grafts_loop

theorem advances_delimited {commas : Bool}
    (asks : (delimited commas).Asks ⟨tokens, depth, builder⟩) :
    (delimited commas).Advances depth tokens := by
  cases tokens with
  | nil => cases asks.1
  | cons paren tokens =>
      have inner := items_grafts commas (depth + 1) tokens
      have split := (reads_read (listEnclosure commas) (depth + 1) tokens).flatMap_leaves
      exact ⟨_, paren :: _, _, List.cons_ne_nil _ _, congrArg _ split.symm, inner.delimited paren⟩

theorem advances_call (asks : call.Asks ⟨tokens, depth, builder⟩) :
    call.Advances depth tokens := by
  obtain ⟨-, -, opens, -⟩ := asks
  match tokens with
  | [] | [_] => cases opens
  | callee :: paren :: tokens =>
      have inner := items_grafts true (depth + 1) tokens
      have split := (reads_read .arguments (depth + 1) tokens).flatMap_leaves
      exact ⟨_, callee :: paren :: _, _, List.cons_ne_nil _ _,
        congrArg _ (congrArg _ split.symm), inner.call (Option.some.inj opens) callee⟩

theorem advances_expression (asks : expression.Asks ⟨tokens, depth, builder⟩) :
    expression.Advances depth tokens := by
  obtain ⟨nodes, rest, reads⟩ : ∃ nodes rest, Reads .document depth tokens nodes rest :=
    ⟨_, _, reads_read .document depth tokens⟩
  cases reads with
  | done => cases asks.2
  | @leaf _ _ token tokens _ kind nodes isLeaf others =>
      exact ⟨_, [token], tokens, List.cons_ne_nil _ _, rfl, .expression_leaf isLeaf⟩
  | close kind inside => exact absurd rfl inside
  | stop kind inside => exact absurd rfl inside
  | @list _ _ paren tokens later _ body nodes opens room inner others =>
      have split := inner.flatMap_leaves
      exact ⟨_, paren :: _, _, List.cons_ne_nil _ _, congrArg _ split.symm,
        inner.grafts_loop.expression_list opens room⟩
  | @call _ _ callee paren tokens later _ body nodes identifier opens room inner others =>
      have split := inner.flatMap_leaves
      exact ⟨_, callee :: paren :: _, _, List.cons_ne_nil _ _, congrArg _ (congrArg _ split.symm),
        inner.grafts_loop.expression_call identifier opens room⟩

/-- The rules that are called by others. -/
def isCalled : Task → Bool
  | expression | call | delimited _ => true
  | _ => false

/-- The tokens that a called rule is entered on. -/
def enters : Task → TokenKind → Bool
  | delimited _, kind => kind == .openParen
  | _, kind => kind.startsExpression

/-- A call comes back with the counter and the open nodes as it found them. -/
structure Returns (task : Task) (before after : Parser) : Prop where
  /-- It does so whatever is to be done later, and also if that is nothing. -/
  runs : ∀ later, ReflTransGen Progress.Steps ⟨before, task :: later⟩ ⟨after, later⟩
  depth_eq : after.depth = before.depth
  openNodes_eq : after.builder.openNodes = before.builder.openNodes
  /-- At least one token was taken. -/
  taken : ∃ taken, taken ≠ [] ∧ before.rest = taken ++ after.rest

variable {task : Task} {parser : Parser}

theorem Advances.exists_returns (asks : task.Asks parser)
    (advances : task.Advances parser.depth parser.rest) : ∃ after, task.Returns parser after := by
  obtain ⟨nodes, taken, rest, nonempty, split, grafts⟩ := advances
  exact ⟨⟨rest, parser.depth, parser.builder.graft nodes⟩,
    (grafts parser.builder asks).runs, rfl, rfl, taken, nonempty, split⟩

/-- A call that can be turned to comes back. -/
theorem exists_returns (called : task.isCalled) (asks : task.Asks parser) :
    ∃ after, task.Returns parser after := by
  cases task with
  | expression => exact (advances_expression asks).exists_returns asks
  | call => exact (advances_call asks).exists_returns asks
  | delimited commas => exact (advances_delimited asks).exists_returns asks
  | _ => cases called

/-- A call that can be turned to stands in front of a token that it can start with. -/
theorem any_enters_peek (called : task.isCalled) (asks : task.Asks parser) :
    parser.peek.any task.enters := by
  cases task with
  | expression => exact asks.2
  | call =>
      rw [asks.2.1]
      rfl
  | delimited commas =>
      rw [asks.1]
      rfl
  | _ => cases called

end Task

/-! ## Whole runs -/

namespace Progress

/-- What a parser comes to from the start of a document on. -/
def Reachable (tokens : List Token) (progress : Progress) : Prop :=
  ReflTransGen Steps (start tokens) progress

/-- A task that can be turned to leads to one that can be turned to, up to the end of a run. -/
theorem stepsReady_of_steps {before after last : Progress}
    (run : ReflTransGen StepsReady before last) (ended : last.step = none)
    (reaches : ReflTransGen Steps before after) : ReflTransGen StepsReady after last := by
  induction reaches with
  | refl => exact run
  | @tail middle after _ isStep ih =>
      -- There is only one step to take, so the run takes it as well.
      rcases ih.cases_head with rfl | ⟨next, ⟨alsoStep, -⟩, later⟩
      · cases ended.symm.trans isStep
      · cases Option.some.inj (alsoStep.symm.trans isStep)
        exact later

theorem asks_start (tokens : List Token) : Task.program.Asks ⟨tokens, 0, .root⟩ :=
  ⟨⟨.root, rfl, Nat.zero_le _⟩, rfl⟩

/-- What a parser is when everything is read. -/
def ending (tokens : List Token) : Parser :=
  ⟨[], 0, Builder.root.graft (ofTokens tokens)⟩

/-- The tasks of a document come to their end, and each can be turned to. -/
theorem performs_program (tokens : List Token) :
    Performs [.program] (start tokens).parser (ending tokens) := by
  have reads := reads_read .document 0 tokens
  have performed := reads.grafts_loop .root (asks_start tokens)
  rw [reads.rest_eq_nil] at performed
  exact performed

/-- A parser is at the end of its document, or its task can be turned to. -/
theorem Reachable.ended_or_ready {tokens : List Token} {progress : Progress}
    (reachable : Reachable tokens progress) :
    progress = ⟨ending tokens, []⟩ ∨ ∃ next, progress.StepsReady next := by
  have remaining := stepsReady_of_steps (performs_program tokens []) rfl reachable
  rcases remaining.cases_head with ended | ⟨next, isStep, -⟩
  · exact Or.inl ended
  · exact Or.inr ⟨next, isStep⟩

theorem Reachable.ready {tokens : List Token} {parser : Parser} {task : Task} {later : List Task}
    (reachable : Reachable tokens ⟨parser, task :: later⟩) : task.Ready parser := by
  rcases reachable.ended_or_ready with ended | ⟨next, -, ready⟩
  · cases ended
  · exact ready task rfl

theorem Reachable.depth_le {tokens : List Token} {progress : Progress}
    (reachable : Reachable tokens progress) : progress.parser.depth ≤ maxDepth := by
  rcases reachable.ended_or_ready with rfl | ⟨next, isStep, ready⟩
  · exact Nat.zero_le _
  · rcases progress with ⟨parser, _ | ⟨task, later⟩⟩
    · cases isStep
    · exact (ready task rfl).depth_le

/-- Opening and closing are in balance, from the start of a document to its end. -/
structure Balances (tokens : List Token) : Prop where
  /-- Each call is made in front of a token that it can start with. -/
  enters : ∀ {parser task later}, Reachable tokens ⟨parser, task :: later⟩ → task.isCalled →
    parser.peek.any task.enters
  /-- Each call comes back with the counter and the open nodes as it found them, and with at least
  one token taken. -/
  returns : ∀ {parser task later}, Reachable tokens ⟨parser, task :: later⟩ → task.isCalled →
    ∃ after, task.Returns parser after
  /-- A list is read into the node that was opened for it, which is still the innermost one
  afterwards. -/
  listOnTop : ∀ {parser commas later}, Reachable tokens ⟨parser, .delimited commas :: later⟩ →
    ∃ (outer : Builder) (span : Text.Span),
      parser.builder = outer.openNode (Task.listKind commas) span ∧ ∀ after,
        (Task.delimited commas).Returns parser after →
          after.builder.openNodes = outer.records.length :: outer.openNodes
  depth_le : ∀ {progress}, Reachable tokens progress → progress.parser.depth ≤ maxDepth
  /-- In front of each item of a list, the counter tells the number of open lists. -/
  depth_eq : ∀ {parser commas later}, Reachable tokens ⟨parser, .items commas :: later⟩ →
    parser.depth = parser.builder.openLists
  /-- From there on the rest of the list is read as by recursion, with the counter as its depth. -/
  follows : ∀ {parser commas later}, Reachable tokens ⟨parser, .items commas :: later⟩ →
    let reading := read (Task.listEnclosure commas) parser.depth parser.rest
    ReflTransGen Steps ⟨parser, .items commas :: later⟩
      ⟨⟨reading.rest, parser.depth, parser.builder.graft reading.nodes⟩, later⟩
  /-- The counter never falls below zero. -/
  depth_pos : ∀ {parser later}, Reachable tokens ⟨parser, .rise :: later⟩ → 0 < parser.depth
  /-- A node is opened only at a token. -/
  present : ∀ {parser kind later}, Reachable tokens ⟨parser, .openNode kind :: later⟩ →
    parser.rest ≠ []
  /-- What is closed is a node below the root that has a child. -/
  closes : ∀ {parser later}, Reachable tokens ⟨parser, .close :: later⟩ →
    parser.builder.Closable ∧ parser.builder.close.openNodes = parser.builder.openNodes.tail
  /-- In the end only the root is open, nothing is left to be closed, and the records are those of
  the tree that is read by recursion. -/
  ends : ∃ last, Reachable tokens ⟨last, []⟩ ∧ last.rest = [] ∧ last.depth = 0 ∧
    last.builder.openNodes = [0] ∧ last.builder.closeAll = last.builder ∧
    ∀ stop, last.builder.finish stop =
      (Node.branch .program ⟨.origin, stop⟩ (ofTokens tokens)).records 0 none

/-- Opening and closing are in balance in every document. -/
theorem balances (tokens : List Token) : Balances tokens where
  enters reachable called := Task.any_enters_peek called reachable.ready.asks
  returns reachable called := Task.exists_returns called reachable.ready.asks
  listOnTop reachable := by
    obtain ⟨-, -, outer, span, opened, -⟩ := reachable.ready.asks
    refine ⟨outer, span, opened, fun after returns => ?_⟩
    rw [returns.openNodes_eq, opened]
    rfl
  depth_le := Reachable.depth_le
  depth_eq reachable := reachable.ready.asks.openLists_eq.symm
  follows reachable := (Task.items_grafts _ _ _ _ reachable.ready.asks).runs _
  depth_pos reachable := reachable.ready.asks
  present reachable := reachable.ready.asks
  closes reachable := by
    obtain ⟨id, outer, record, isOpen, notRoot, inside, found, filled⟩ := reachable.ready.asks
    refine ⟨⟨id, outer, record, isOpen, notRoot, inside, found, filled⟩, ?_⟩
    rw [Builder.openNodes_close isOpen inside, isOpen, List.tail_cons]
  ends := ⟨ending tokens, (performs_program tokens).runs [], rfl, rfl, rfl,
    Builder.closeAll_eq_self rfl, Builder.finish_graft_root (ofTokens tokens)⟩

-- In `f(` nothing is left when the nodes are closed, first the arguments and then the call.
example :
    let callee : Token := ⟨.identifier, "f", ⟨⟨0, ⟨0, 0⟩⟩, ⟨1, ⟨0, 1⟩⟩⟩⟩
    let paren : Token := ⟨.openParen, "(", ⟨⟨1, ⟨0, 1⟩⟩, ⟨2, ⟨0, 2⟩⟩⟩⟩
    let reached := Nat.repeat (Option.bind · step) 11 (some (start [callee, paren]))
    reached.map (fun progress => (progress.tasks, progress.parser.builder.openNodes)) =
      some ([.close, .close, .program], [3, 1, 0]) :=
  rfl

end Progress

end SetScript
