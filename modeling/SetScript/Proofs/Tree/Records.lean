import Mathlib.Data.List.Count
import Mathlib.Logic.Relation
import SetScript.Proofs.Tree.Balance

/-!
# How records hang together

The records of a tree tell twice where a node belongs: its own record names its parent, and the
record of the parent lists it as a child.  Read either way, the pairs of parents and children are
the same up to order.  So every record but the first is listed exactly once, by the record that it
names.  A parent stands before its children, and the way up from any record ends at the first one.

So it is with the records that are left when a document is read to its end.
-/

namespace SetScript

namespace Record

/-! ## Pairs of parents and children -/

/-- The pairs of a record and a child that it lists.  The records are numbered from a number on. -/
def listings (start : Nat) : List Record → List (Nat × Nat)
  | [] => []
  | record :: rest => record.children.map (start, ·) ++ listings (start + 1) rest

/-- The pairs of a parent and a record that names it.  The records are numbered from a number
on. -/
def namings (start : Nat) : List Record → List (Nat × Nat)
  | [] => []
  | record :: rest => record.parent?.toList.map (·, start) ++ namings (start + 1) rest

variable {records : List Record} {record : Record} {start place : Nat} {pair : Nat × Nat}

theorem listings_append (start : Nat) (first second : List Record) :
    listings start (first ++ second) =
      listings start first ++ listings (start + first.length) second := by
  induction first generalizing start with
  | nil => rfl
  | cons record rest ih =>
      rw [List.cons_append, listings, listings, ih, List.length_cons, List.append_assoc,
        Nat.add_assoc, Nat.add_comm 1]

theorem namings_append (start : Nat) (first second : List Record) :
    namings start (first ++ second) =
      namings start first ++ namings (start + first.length) second := by
  induction first generalizing start with
  | nil => rfl
  | cons record rest ih =>
      rw [List.cons_append, namings, namings, ih, List.length_cons, List.append_assoc,
        Nat.add_assoc, Nat.add_comm 1]

theorem le_of_mem_listings (member : pair ∈ listings start records) : start ≤ pair.1 := by
  induction records generalizing start with
  | nil => cases member
  | cons record rest ih =>
      rcases List.mem_append.mp member with here | later
      · rcases List.mem_map.mp here with ⟨child, -, rfl⟩
        exact Nat.le_refl start
      · exact Nat.le_of_succ_le (ih later)

theorem le_of_mem_namings (member : pair ∈ namings start records) : start ≤ pair.2 := by
  induction records generalizing start with
  | nil => cases member
  | cons record rest ih =>
      rcases List.mem_append.mp member with here | later
      · rcases List.mem_map.mp here with ⟨parent, -, rfl⟩
        exact Nat.le_refl start
      · exact Nat.le_of_succ_le (ih later)

/-- A record is listed by another as often as its number is among the children of that one. -/
theorem count_listings (lister : records[place]? = some record) (start id : Nat) :
    (listings start records).count (start + place, id) = record.children.count id := by
  induction records generalizing start place with
  | nil => cases lister
  | cons first rest ih =>
      rw [listings, List.count_append]
      cases place with
      | zero =>
          rw [List.getElem?_cons_zero, Option.some.injEq] at lister
          subst lister
          have notLater : (start, id) ∉ listings (start + 1) rest := fun later =>
            absurd (le_of_mem_listings later) (Nat.not_succ_le_self start)
          rw [Nat.add_zero, List.count_eq_zero.mpr notLater, Nat.add_zero]
          exact List.count_map_of_injective _ _ (fun _ _ same => (Prod.mk.inj same).2) id
      | succ place =>
          have notHere : (start + (place + 1), id) ∉ first.children.map (start, ·) := by
            simp
          rw [List.count_eq_zero.mpr notHere, Nat.zero_add, Nat.add_comm place, ← Nat.add_assoc]
          exact ih lister (start + 1)

/-- A record names one parent at most. -/
theorem count_namings (named : records[place]? = some record) (start parent : Nat) :
    (namings start records).count (parent, start + place) =
      if record.parent? = some parent then 1 else 0 := by
  induction records generalizing start place with
  | nil => cases named
  | cons first rest ih =>
      rw [namings, List.count_append]
      cases place with
      | zero =>
          rw [List.getElem?_cons_zero, Option.some.injEq] at named
          subst named
          have notLater : (parent, start) ∉ namings (start + 1) rest := fun later =>
            absurd (le_of_mem_namings later) (Nat.not_succ_le_self start)
          rw [Nat.add_zero, List.count_eq_zero.mpr notLater, Nat.add_zero]
          cases first.parent? with
          | none => rfl
          | some other => simp [List.count_singleton]
      | succ place =>
          have notHere : (parent, start + (place + 1)) ∉ first.parent?.toList.map (·, start) := by
            simp
          rw [List.count_eq_zero.mpr notHere, Nat.zero_add, Nat.add_comm place, ← Nat.add_assoc]
          exact ih named (start + 1)

theorem mem_listings (lister : records[place]? = some record) {id : Nat}
    (child : id ∈ record.children) (start : Nat) : (start + place, id) ∈ listings start records := by
  rw [← List.count_pos_iff, count_listings lister]
  exact List.count_pos_iff.mpr child

theorem mem_namings (there : records[place]? = some record) {parent : Nat}
    (named : record.parent? = some parent) (start : Nat) :
    (parent, start + place) ∈ namings start records := by
  rw [← List.count_pos_iff, count_namings there, if_pos named]
  exact Nat.one_pos

/-! ## Records of one tree -/

/-- Records, numbered from zero on, that hang together in one tree. -/
structure Linked (records : List Record) : Prop where
  /-- The first record names no parent, and every other one does. -/
  parent?_eq_none_iff : ∀ (id : Nat) (record : Record), records[id]? = some record →
    (record.parent? = none ↔ id = 0)
  /-- A parent stands before its children. -/
  parent_lt : ∀ (id : Nat) (record : Record) (parent : Nat), records[id]? = some record →
    record.parent? = some parent → parent < id
  /-- A record is listed once by the record that it names, and not by any other one. -/
  count_children : ∀ (id : Nat) (record : Record) (other : Nat) (lister : Record),
    records[id]? = some record → records[other]? = some lister →
      lister.children.count id = if record.parent? = some other then 1 else 0
  /-- What is listed is there. -/
  child_lt : ∀ lister ∈ records, ∀ id ∈ lister.children, id < records.length

/-- One record names another as its parent. -/
def Names (records : List Record) (id parent : Nat) : Prop :=
  ∃ record, records[id]? = some record ∧ record.parent? = some parent

/-- The way up from any record ends at the first one. -/
theorem Linked.ascends (linked : Linked records) {id : Nat} (inside : id < records.length) :
    Relation.ReflTransGen (Names records) id 0 := by
  induction id using Nat.strongRecOn with
  | ind id ih =>
      have there : records[id]? = some records[id] := List.getElem?_eq_getElem inside
      cases named : records[id].parent? with
      | none =>
          rw [(linked.parent?_eq_none_iff id _ there).mp named]
      | some parent =>
          have lower := linked.parent_lt id _ parent there named
          exact .head ⟨_, there, named⟩ (ih parent lower (lower.trans inside))

end Record

namespace Node

open Record (listings namings)

variable {start id : Nat} {parent? : Option Nat} {node : Node} {nodes : List Node}

theorem mem_places (member : id ∈ places start nodes) : start ≤ id ∧ id < start + sizeAll nodes := by
  induction nodes generalizing start with
  | nil => cases member
  | cons node rest ih =>
      have := size_eq node
      rw [sizeAll]
      rcases List.mem_cons.mp member with rfl | later
      · omega
      · have := ih later
        omega

mutual

/-- Both readings of the records of a tree agree, but for the parent of the tree itself. -/
theorem namings_records_perm (start : Nat) (parent? : Option Nat) (node : Node) :
    (namings start (records start parent? node)).Perm
      (parent?.toList.map (·, start) ++ listings start (records start parent? node)) := by
  match node with
  | leaf kind token => exact .refl _
  | branch kind span children =>
      rw [records, namings, listings]
      exact (namings_recordsAll_perm (start + 1) start children).append_left _

theorem namings_recordsAll_perm (start parent : Nat) (nodes : List Node) :
    (namings start (recordsAll start (some parent) nodes)).Perm
      ((places start nodes).map (parent, ·) ++
        listings start (recordsAll start (some parent) nodes)) := by
  match nodes with
  | [] => exact .refl _
  | node :: rest =>
      rw [recordsAll, Record.namings_append, Record.listings_append, length_records, places,
        List.map_cons]
      have first := namings_records_perm start (some parent) node
      have later := namings_recordsAll_perm (start + node.size) parent rest
      -- The children of the first tree and the other trees of the forest change places.
      calc namings start (records start (some parent) node) ++
            namings (start + node.size) (recordsAll (start + node.size) (some parent) rest)
          |>.Perm ((parent, start) :: listings start (records start (some parent) node) ++
            ((places (start + node.size) rest).map (parent, ·) ++
              listings (start + node.size) (recordsAll (start + node.size) (some parent) rest))) :=
            first.append later
        _ |>.Perm _ := by
            rw [List.cons_append, List.cons_append, ← List.append_assoc, ← List.append_assoc]
            exact (List.perm_append_comm.append_right _).cons _

end

mutual

theorem isSome_parent?_records {parent : Nat} (node : Node) {start : Nat} {record : Record}
    (member : record ∈ records start (some parent) node) : record.parent?.isSome := by
  match node with
  | leaf kind token =>
      rw [List.mem_singleton.mp member]
      rfl
  | branch kind span children =>
      rcases List.mem_cons.mp member with rfl | below
      · rfl
      · exact isSome_parent?_recordsAll children below

/-- Below a parent every record names one. -/
theorem isSome_parent?_recordsAll {parent : Nat} (nodes : List Node) {start : Nat}
    {record : Record} (member : record ∈ recordsAll start (some parent) nodes) :
    record.parent?.isSome := by
  match nodes with
  | [] => cases member
  | node :: rest =>
      rcases List.mem_append.mp member with first | later
      · exact isSome_parent?_records node first
      · exact isSome_parent?_recordsAll rest later

end

mutual

/-- A child stands behind its parent, and within the tree. -/
theorem lt_of_mem_listings_records {parent? : Option Nat} (node : Node) {start : Nat}
    {pair : Nat × Nat} (member : pair ∈ listings start (records start parent? node)) :
    pair.1 < pair.2 ∧ pair.2 < start + node.size := by
  match node with
  | leaf kind token => cases member
  | branch kind span children =>
      rw [size, ← Nat.add_assoc]
      rcases List.mem_append.mp member with here | below
      · rcases List.mem_map.mp here with ⟨child, place, rfl⟩
        exact mem_places place
      · exact lt_of_mem_listings_recordsAll children below

theorem lt_of_mem_listings_recordsAll {parent? : Option Nat} (nodes : List Node) {start : Nat}
    {pair : Nat × Nat} (member : pair ∈ listings start (recordsAll start parent? nodes)) :
    pair.1 < pair.2 ∧ pair.2 < start + sizeAll nodes := by
  match nodes with
  | [] => cases member
  | node :: rest =>
      rw [recordsAll, Record.listings_append, length_records] at member
      rw [sizeAll]
      rcases List.mem_append.mp member with first | later
      · have := lt_of_mem_listings_records node first
        omega
      · have := lt_of_mem_listings_recordsAll rest later
        omega

end

/-- The records of a tree hang together: each but the first is listed exactly once, by the record
that it names as its parent. -/
theorem linked_records (node : Node) : Record.Linked (node.records 0 none) where
  parent?_eq_none_iff id record there := by
    obtain ⟨kind, span, children, below, all, named⟩ : ∃ kind span children below,
        node.records 0 none = ⟨kind, span, none, children⟩ :: below ∧
          ∀ other ∈ below, other.parent?.isSome := by
      cases node with
      | leaf kind token => exact ⟨_, _, _, [], rfl, nofun⟩
      | branch kind span children =>
          exact ⟨_, _, _, _, rfl, fun _ member => isSome_parent?_recordsAll children member⟩
    rw [all] at there
    cases id with
    | zero =>
        cases there
        simp
    | succ id =>
        have some := named record (List.mem_of_getElem? there)
        simp [Option.isSome_iff_ne_none.mp some]
  parent_lt id record parent there named := by
    have member := Record.mem_namings there named 0
    rw [Nat.zero_add, (namings_records_perm 0 none node).mem_iff] at member
    exact (lt_of_mem_listings_records node member).1
  count_children id record other lister there listed := by
    have lists := Record.count_listings listed 0 id
    have names := Record.count_namings there 0 other
    rw [Nat.zero_add] at lists names
    rw [← lists, ← names, (namings_records_perm 0 none node).count_eq]
    rfl
  child_lt lister member id child := by
    rcases List.mem_iff_getElem?.mp member with ⟨place, there⟩
    have inside := (lt_of_mem_listings_records node (Record.mem_listings there child 0)).2
    rwa [length_records, ← Nat.zero_add node.size]

end Node

/-- When a document is read to its end, its records hang together. -/
theorem Progress.Reachable.linked {tokens : List Token} {parser : Parser}
    (reachable : Reachable tokens ⟨parser, []⟩) (stop : Text.Mark) :
    Record.Linked (parser.builder.finish stop) := by
  rcases reachable.ended_or_ready with ended | ⟨next, isStep, -⟩
  · cases ended
    rw [ending, Builder.finish_graft_root]
    exact Node.linked_records _
  · cases isStep

end SetScript
