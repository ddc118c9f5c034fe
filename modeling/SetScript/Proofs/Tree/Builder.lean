import SetScript.Proofs.Tree.Nesting

/-!
# Building a tree record by record

A builder keeps the nodes of a tree as numbered records, in the order in which they were begun, and
a stack of the nodes that are still open.  What is begun becomes the last child of the innermost
open node.  A node that is closed ends where its last child ends.

The records of a finished tree can be listed by recursion as well: a node stands before what is
below it, so its number is told by the sizes of the trees before it.  `Builder.graft` adds a whole
forest in this way.  Adding a leaf is grafting it, and a node that was opened, filled and closed has
been grafted as a branch around its children.
-/

namespace SetScript

open Text

/-- A node in the making, its parent and its children told by their numbers. -/
structure Record where
  kind : Kind
  span : Span
  parent? : Option Nat
  children : List Nat
deriving DecidableEq

namespace Record

/-- Add children behind those that there are. -/
def adopt (ids : List Nat) (record : Record) : Record :=
  { record with children := record.children ++ ids }

/-- Move the end. -/
def endAt (stop : Mark) (record : Record) : Record :=
  { record with span := { record.span with stop := stop } }

theorem adopt_nil (record : Record) : adopt [] record = record := by
  rw [adopt, List.append_nil]

theorem adopt_adopt (first second : List Nat) (record : Record) :
    adopt second (adopt first record) = adopt (first ++ second) record := by
  simp [adopt]

/-- Add children to the record of a parent, if there is one. -/
def adoptBy (parent? : Option Nat) (ids : List Nat) (records : List Record) : List Record :=
  match parent? with
  | some parent => records.modify parent (adopt ids)
  | none => records

end Record

/-- A tree in the making: its records, and the numbers of the open nodes, the innermost first. -/
@[ext]
structure Builder where
  records : List Record
  openNodes : List Nat
deriving DecidableEq

namespace Builder

/-- Nothing but the root. -/
def root : Builder :=
  ⟨[⟨.program, ⟨.origin, .origin⟩, none, []⟩], [0]⟩

/-- Add a record as the last child of the innermost open node. -/
def push (builder : Builder) (kind : Kind) (span : Span) : Builder :=
  let id := builder.records.length
  let parent? := builder.openNodes.head?
  { builder with
    records := Record.adoptBy parent? [id] (builder.records ++ [⟨kind, span, parent?, []⟩]) }

/-- Add a leaf. -/
def leaf (builder : Builder) (kind : Kind) (span : Span) : Builder :=
  builder.push kind span

/-- Add a node, and leave it open. -/
def openNode (builder : Builder) (kind : Kind) (span : Span) : Builder :=
  { builder.push kind span with openNodes := builder.records.length :: builder.openNodes }

/-- The end of the last child of a node. -/
def lastStop? (builder : Builder) (id : Nat) : Option Mark := do
  let record ← builder.records[id]?
  let last ← record.children.getLast?
  let child ← builder.records[last]?
  return child.span.stop

/-- Close the innermost open node, unless it is the root.  It ends where its last child ends, if
it has children. -/
def close (builder : Builder) : Builder :=
  match builder.openNodes with
  | id :: outer :: others =>
      { records :=
          match builder.lastStop? id with
          | some stop => builder.records.modify id (Record.endAt stop)
          | none => builder.records
        openNodes := outer :: others }
  | _ => builder

theorem openNodes_close {builder : Builder} {id : Nat} {outer : List Nat}
    (isOpen : builder.openNodes = id :: outer) (inside : outer ≠ []) :
    builder.close.openNodes = outer := by
  cases outer with
  | nil => exact absurd rfl inside
  | cons next others => rw [close, isOpen]

theorem records_close {builder : Builder} {id : Nat} {outer : List Nat}
    (isOpen : builder.openNodes = id :: outer) (inside : outer ≠ []) {stop : Mark}
    (ends : builder.lastStop? id = some stop) :
    builder.close.records = builder.records.modify id (Record.endAt stop) := by
  cases outer with
  | nil => exact absurd rfl inside
  | cons next others => simp only [close, isOpen, ends]

/-- Close all but the root. -/
def closeAll (builder : Builder) : Builder :=
  match _ : builder.openNodes with
  | _ :: _ :: _ => builder.close.closeAll
  | _ => builder
termination_by builder.openNodes.length
decreasing_by
  rename_i isOpen
  rw [openNodes_close isOpen (List.cons_ne_nil _ _), isOpen]
  exact Nat.lt_succ_self _

/-- The records, after everything is closed and the root reaches to the end of the document. -/
def finish (builder : Builder) (stop : Mark) : List Record :=
  builder.closeAll.records.modify 0 (Record.endAt stop)

/-- The kind of a node that is told by its number. -/
def kindOf? (builder : Builder) (id : Nat) : Option Kind :=
  builder.records[id]?.map Record.kind

/-- The number of lists among the open nodes. -/
def openLists (builder : Builder) : Nat :=
  builder.openNodes.countP fun id => (builder.kindOf? id).any Kind.isList

/-- The innermost open node is another one than the root, and it has a child. -/
def Closable (builder : Builder) : Prop :=
  ∃ id outer record, builder.openNodes = id :: outer ∧ id ≠ 0 ∧ outer ≠ [] ∧
    builder.records[id]? = some record ∧ record.children ≠ []

/-- With nothing but the root open there is nothing to close. -/
theorem closeAll_eq_self {builder : Builder} {id : Nat} (isOpen : builder.openNodes = [id]) :
    builder.closeAll = builder := by
  rw [closeAll]
  split
  · rename_i several
    rw [isOpen] at several
    cases several
  · rfl

end Builder

/-! ## The records of a tree -/

namespace Node

/-- The numbers of the trees of a forest whose records are listed from a number on. -/
def places (start : Nat) : List Node → List Nat
  | [] => []
  | node :: rest => start :: places (start + node.size) rest

mutual

/-- The records of a tree, from a number on. -/
def records (start : Nat) (parent? : Option Nat) : Node → List Record
  | leaf kind token => [⟨kind, token.span, parent?, []⟩]
  | branch kind span children =>
      ⟨kind, span, parent?, places (start + 1) children⟩ ::
        recordsAll (start + 1) (some start) children

/-- The records of a forest, from a number on. -/
def recordsAll (start : Nat) (parent? : Option Nat) : List Node → List Record
  | [] => []
  | node :: rest => records start parent? node ++ recordsAll (start + node.size) parent? rest

end

theorem places_append (start : Nat) (first second : List Node) :
    places start (first ++ second) =
      places start first ++ places (start + sizeAll first) second := by
  induction first generalizing start with
  | nil => simp [places, sizeAll]
  | cons node rest ih => simp [places, sizeAll, ih, Nat.add_assoc]

theorem recordsAll_append (start : Nat) (parent? : Option Nat) (first second : List Node) :
    recordsAll start parent? (first ++ second) =
      recordsAll start parent? first ++ recordsAll (start + sizeAll first) parent? second := by
  induction first generalizing start with
  | nil => simp [recordsAll, sizeAll]
  | cons node rest ih => simp [recordsAll, sizeAll, ih, Nat.add_assoc]

theorem recordsAll_singleton (start : Nat) (parent? : Option Nat) (node : Node) :
    recordsAll start parent? [node] = records start parent? node := by
  rw [recordsAll, recordsAll, List.append_nil]

mutual

/-- There is one record for each node of a tree. -/
theorem length_records (start : Nat) (parent? : Option Nat) (node : Node) :
    (records start parent? node).length = node.size := by
  match node with
  | leaf kind token => rfl
  | branch kind span children =>
      rw [records, List.length_cons, length_recordsAll, size, Nat.add_comm]

theorem length_recordsAll (start : Nat) (parent? : Option Nat) (nodes : List Node) :
    (recordsAll start parent? nodes).length = sizeAll nodes := by
  match nodes with
  | [] => rfl
  | node :: rest =>
      rw [recordsAll, List.length_append, length_records, length_recordsAll, sizeAll]

end

/-- The first record of a tree is that of its root. -/
theorem exists_records_eq_cons (start : Nat) (parent? : Option Nat) (node : Node) :
    ∃ record below, records start parent? node = record :: below ∧ record.span = node.span := by
  cases node with
  | leaf kind token => exact ⟨_, _, rfl, rfl⟩
  | branch kind span children => exact ⟨_, _, by rw [records], rfl⟩

end Node

/-! ## Changing records -/

namespace Record

variable {parent? : Option Nat} {ids : List Nat} {records : List Record}

/-- A record in the first of two parts is changed there. -/
theorem modify_append_of_lt {id : Nat} (inFirst : id < records.length) (others : List Record)
    (change : Record → Record) :
    (records ++ others).modify id change = records.modify id change ++ others := by
  induction records generalizing id with
  | nil => cases inFirst
  | cons record records ih =>
      cases id with
      | zero => rfl
      | succ id => simpa using ih (Nat.lt_of_succ_lt_succ inFirst)

/-- The number of a record is the number of those before it. -/
theorem modify_append_length (records : List Record) (record : Record) (others : List Record)
    (change : Record → Record) :
    (records ++ record :: others).modify records.length change =
      records ++ change record :: others := by
  induction records with
  | nil => rfl
  | cons first records ih => simpa using ih

@[simp]
theorem length_adoptBy : (adoptBy parent? ids records).length = records.length := by
  cases parent? with
  | none => rfl
  | some parent => exact List.length_modify _ _ _

theorem adoptBy_nil : adoptBy parent? [] records = records := by
  cases parent? with
  | none => rfl
  | some parent =>
      have nothing : adopt [] = id := funext adopt_nil
      rw [adoptBy, nothing, List.modify_id]

theorem adoptBy_append (inFirst : ∀ parent ∈ parent?, parent < records.length)
    (others : List Record) :
    adoptBy parent? ids (records ++ others) = adoptBy parent? ids records ++ others := by
  cases parent? with
  | none => rfl
  | some parent => exact modify_append_of_lt (inFirst parent rfl) others _

theorem adoptBy_adoptBy (more : List Nat) :
    adoptBy parent? more (adoptBy parent? ids records) = adoptBy parent? (ids ++ more) records := by
  cases parent? with
  | none => rfl
  | some parent =>
      have both : adopt more ∘ adopt ids = adopt (ids ++ more) := funext (adopt_adopt ids more)
      rw [adoptBy, adoptBy, List.modify_modify_eq, both]
      rfl

/-- A record that adopts children keeps its kind. -/
theorem kind_adoptBy (id : Nat) :
    (adoptBy parent? ids records)[id]?.map kind = records[id]?.map kind := by
  cases parent? with
  | none => rfl
  | some parent =>
      rw [adoptBy, List.getElem?_modify, Option.map_eq_map, Option.map_map]
      congr 1
      funext record
      by_cases isParent : parent = id <;> simp [isParent, adopt]

end Record

/-! ## Grafting -/

namespace Builder

open Node (places recordsAll)
open Record (adoptBy)

/-- Add a forest below the innermost open node. -/
def graft (builder : Builder) (nodes : List Node) : Builder :=
  let start := builder.records.length
  let parent? := builder.openNodes.head?
  { builder with
    records := adoptBy parent? (places start nodes) builder.records ++
      recordsAll start parent? nodes }

/-- The records, after the parent of the next one has adopted it. -/
def awaiting (builder : Builder) : List Record :=
  adoptBy builder.openNodes.head? [builder.records.length] builder.records

/-- The open nodes have records, and the root is the outermost one. -/
structure Proper (builder : Builder) : Prop where
  lt_length : ∀ id ∈ builder.openNodes, id < builder.records.length
  outermost : builder.openNodes.getLast? = some 0

variable {builder : Builder}

@[simp]
theorem openNodes_graft (nodes : List Node) :
    (builder.graft nodes).openNodes = builder.openNodes :=
  rfl

@[simp]
theorem openNodes_openNode (kind : Kind) (span : Span) :
    (builder.openNode kind span).openNodes = builder.records.length :: builder.openNodes :=
  rfl

@[simp]
theorem length_awaiting : builder.awaiting.length = builder.records.length :=
  Record.length_adoptBy

theorem graft_nil : builder.graft [] = builder := by
  have records : (builder.graft []).records = builder.records := by
    rw [graft, recordsAll, places, List.append_nil]
    exact Record.adoptBy_nil
  exact Builder.ext records rfl

theorem length_records_graft (nodes : List Node) :
    (builder.graft nodes).records.length = builder.records.length + Node.sizeAll nodes := by
  rw [graft, List.length_append, Record.length_adoptBy, Node.length_recordsAll]

theorem length_records_openNode (kind : Kind) (span : Span) :
    (builder.openNode kind span).records.length = builder.records.length + 1 := by
  rw [openNode, push, Record.length_adoptBy, List.length_append, List.length_singleton]

namespace Proper

theorem head_lt (proper : builder.Proper) :
    ∀ parent ∈ builder.openNodes.head?, parent < builder.records.length :=
  fun parent isHead => proper.lt_length parent (List.mem_of_mem_head? isHead)

theorem openNodes_ne_nil (proper : builder.Proper) : builder.openNodes ≠ [] := by
  intro nothing
  have outermost := proper.outermost
  rw [nothing] at outermost
  cases outermost

theorem length_pos (proper : builder.Proper) : 0 < builder.records.length :=
  proper.lt_length 0 (List.mem_of_getLast? proper.outermost)

theorem root : Builder.root.Proper where
  lt_length := by decide
  outermost := rfl

theorem graft (proper : builder.Proper) (nodes : List Node) : (builder.graft nodes).Proper where
  lt_length id isOpen := by
    rw [length_records_graft]
    exact Nat.lt_add_right _ (proper.lt_length id isOpen)
  outermost := proper.outermost

theorem openNode (proper : builder.Proper) (kind : Kind) (span : Span) :
    (builder.openNode kind span).Proper where
  lt_length := by
    rw [openNodes_openNode, length_records_openNode, List.forall_mem_cons]
    exact ⟨Nat.lt_succ_self _, fun id isOpen => Nat.lt_succ_of_lt (proper.lt_length id isOpen)⟩
  outermost := by
    rw [openNodes_openNode, List.getLast?_cons_of_ne_nil proper.openNodes_ne_nil]
    exact proper.outermost

/-- A new node stands behind all others. -/
theorem records_push (proper : builder.Proper) (kind : Kind) (span : Span) :
    (builder.push kind span).records =
      builder.awaiting ++ [⟨kind, span, builder.openNodes.head?, []⟩] := by
  rw [push, Record.adoptBy_append proper.head_lt, awaiting]

theorem records_openNode (proper : builder.Proper) (kind : Kind) (span : Span) :
    (builder.openNode kind span).records =
      builder.awaiting ++ [⟨kind, span, builder.openNodes.head?, []⟩] :=
  proper.records_push kind span

/-- Adding a leaf is grafting it. -/
theorem leaf_eq_graft (proper : builder.Proper) (kind : Kind) (token : Token) :
    builder.leaf kind token.span = builder.graft [.leaf kind token] := by
  have records : (builder.push kind token.span).records =
      (builder.graft [.leaf kind token]).records := by
    rw [proper.records_push, Builder.graft, Node.recordsAll_singleton]
    rfl
  exact Builder.ext records rfl

/-- Two forests that are grafted one after the other are one forest. -/
theorem graft_graft (proper : builder.Proper) (first second : List Node) :
    (builder.graft first).graft second = builder.graft (first ++ second) := by
  have inFirst : ∀ parent ∈ builder.openNodes.head?,
      parent < (adoptBy builder.openNodes.head? (places builder.records.length first)
        builder.records).length := by
    rw [Record.length_adoptBy]
    exact proper.head_lt
  have records : ((builder.graft first).graft second).records =
      (builder.graft (first ++ second)).records := by
    rw [Builder.graft, length_records_graft, openNodes_graft, Builder.graft, Builder.graft,
      Record.adoptBy_append inFirst, Record.adoptBy_adoptBy, Node.places_append,
      Node.recordsAll_append, List.append_assoc]
  exact Builder.ext records rfl

/-- An open node that was filled has the trees of the forest as its children. -/
theorem records_graft_openNode (proper : builder.Proper) (kind : Kind) (span : Span)
    (nodes : List Node) :
    ((builder.openNode kind span).graft nodes).records =
      builder.awaiting ++
        ⟨kind, span, builder.openNodes.head?, places (builder.records.length + 1) nodes⟩ ::
          recordsAll (builder.records.length + 1) (some builder.records.length) nodes := by
  -- The open node has the last record, so its number is the number of the records before it.
  have filled := Record.modify_append_length builder.awaiting
    ⟨kind, span, builder.openNodes.head?, []⟩ [] (Record.adopt (places (builder.records.length + 1) nodes))
  rw [length_awaiting] at filled
  rw [Builder.graft, length_records_openNode, openNodes_openNode, List.head?_cons,
    proper.records_openNode, adoptBy, filled, List.append_assoc]
  rfl

theorem getElem?_graft_openNode (proper : builder.Proper) (kind : Kind) (span : Span)
    (nodes : List Node) :
    ((builder.openNode kind span).graft nodes).records[builder.records.length]? =
      some ⟨kind, span, builder.openNodes.head?, places (builder.records.length + 1) nodes⟩ := by
  rw [proper.records_graft_openNode, List.getElem?_append_right (by simp), length_awaiting,
    Nat.sub_self, List.getElem?_cons_zero]

/-- The last child of a node that was filled ends where the last tree of the forest ends. -/
theorem lastStop?_graft_openNode (proper : builder.Proper) (kind : Kind) (span : Span)
    (others : List Node) (last : Node) :
    ((builder.openNode kind span).graft (others ++ [last])).lastStop? builder.records.length =
      some last.span.stop := by
  have records := proper.records_graft_openNode kind span (others ++ [last])
  have parent := proper.getElem?_graft_openNode kind span (others ++ [last])
  obtain ⟨record, below, first, sameSpan⟩ := Node.exists_records_eq_cons
    (builder.records.length + 1 + Node.sizeAll others) (some builder.records.length) last
  rw [Node.recordsAll_append, Node.recordsAll_singleton, first] at records
  have child : ((builder.openNode kind span).graft (others ++ [last])).records[
      builder.records.length + 1 + Node.sizeAll others]? = some record := by
    rw [records, ← List.cons_append, ← List.append_assoc, List.getElem?_append_right]
    · simp [Node.length_recordsAll, Nat.add_assoc, Nat.add_comm 1]
    · simp [Node.length_recordsAll, Nat.add_assoc, Nat.add_comm 1]
  simp [lastStop?, parent, Node.places_append, places, child, sameSpan]

/-- A node that was opened, filled and closed has been grafted. -/
theorem close_graft_openNode (proper : builder.Proper) (kind : Kind) (span : Span) (first : Node)
    (others : List Node) (starts : span.start = first.span.start) :
    ((builder.openNode kind span).graft (first :: others)).close =
      builder.graft [.enclose kind first others] := by
  have split := List.dropLast_append_getLast (List.cons_ne_nil first others)
  have stop := proper.lastStop?_graft_openNode kind span (first :: others).dropLast
    ((first :: others).getLast (List.cons_ne_nil first others))
  rw [split] at stop
  have ended := Record.modify_append_length builder.awaiting
    ⟨kind, span, builder.openNodes.head?, places (builder.records.length + 1) (first :: others)⟩
    (recordsAll (builder.records.length + 1) (some builder.records.length) (first :: others))
    (Record.endAt ((first :: others).getLast (List.cons_ne_nil first others)).span.stop)
  rw [length_awaiting, ← proper.records_graft_openNode] at ended
  apply Builder.ext
  · rw [records_close rfl proper.openNodes_ne_nil stop, ended, Builder.graft,
      Node.recordsAll_singleton, Node.enclose, Node.records, ← starts]
    rfl
  · exact openNodes_close rfl proper.openNodes_ne_nil

/-- A node that was opened and filled can be closed. -/
theorem closable_graft_openNode (proper : builder.Proper) (kind : Kind) (span : Span)
    (first : Node) (others : List Node) :
    ((builder.openNode kind span).graft (first :: others)).Closable := by
  exact ⟨builder.records.length, builder.openNodes, _, rfl, Nat.ne_of_gt proper.length_pos,
    proper.openNodes_ne_nil, proper.getElem?_graft_openNode kind span (first :: others),
    List.cons_ne_nil _ _⟩

theorem kindOf?_graft (nodes : List Node) {id : Nat} (isNode : id < builder.records.length) :
    (builder.graft nodes).kindOf? id = builder.kindOf? id := by
  rw [kindOf?, Builder.graft,
    List.getElem?_append_left (by rw [Record.length_adoptBy]; exact isNode)]
  exact Record.kind_adoptBy id

/-- Opening a node changes the kind of no other one. -/
theorem kindOf?_openNode (proper : builder.Proper) (kind : Kind) (span : Span) {id : Nat}
    (isNode : id < builder.records.length) :
    (builder.openNode kind span).kindOf? id = builder.kindOf? id := by
  rw [kindOf?, proper.records_openNode, List.getElem?_append_left (length_awaiting ▸ isNode)]
  exact Record.kind_adoptBy id

theorem kindOf?_openNode_self (proper : builder.Proper) (kind : Kind) (span : Span) :
    (builder.openNode kind span).kindOf? builder.records.length = some kind := by
  rw [kindOf?, proper.records_openNode, List.getElem?_append_right (by simp), length_awaiting,
    Nat.sub_self]
  rfl

theorem openLists_graft (proper : builder.Proper) (nodes : List Node) :
    (builder.graft nodes).openLists = builder.openLists := by
  apply List.countP_congr
  intro id isOpen
  rw [kindOf?_graft nodes (proper.lt_length id isOpen)]

theorem openLists_openNode (proper : builder.Proper) (kind : Kind) (span : Span) :
    (builder.openNode kind span).openLists = builder.openLists + kind.isList.toNat := by
  have others : builder.openNodes.countP
      (fun id => ((builder.openNode kind span).kindOf? id).any Kind.isList) =
        builder.openLists := by
    apply List.countP_congr
    intro id isOpen
    rw [proper.kindOf?_openNode kind span (proper.lt_length id isOpen)]
  rw [openLists, openNodes_openNode, List.countP_cons, others, proper.kindOf?_openNode_self,
    Option.any_some]
  cases kind.isList <;> rfl

end Proper

/-- When the tree is finished, its records are those of a root around what was grafted. -/
theorem finish_graft_root (nodes : List Node) (stop : Mark) :
    (root.graft nodes).finish stop =
      Node.records 0 none (.branch .program ⟨.origin, stop⟩ nodes) := by
  rw [finish, closeAll_eq_self rfl, Node.records]
  rfl

end Builder

end SetScript
