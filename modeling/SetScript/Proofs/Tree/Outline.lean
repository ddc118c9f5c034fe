import SetScript.Proofs.Lexical.Rendering
import SetScript.Proofs.Tree.Extent

/-!
# Outlines

An outline lists the nodes of a forest by recursion, with their depths.  It lists them in the
order in which a traversal meets them.

A sketch is an outline without places: the kinds of the nodes, and the texts of the leaves.
Reading looks at nothing but the kinds of tokens, so tokens that say the same are read into forests
with the same sketch, wherever in their documents they stand.
-/

namespace SetScript

open Text

namespace Node

/-- Outlines list the nodes of a forest in the order in which it is traversed, if they do so for
each of its trees. -/
theorem map_snd_outlineAll_of_forall {nodes : List Node}
    (each : ∀ node ∈ nodes, ∀ depth, (outline depth node).map Prod.snd = traverse [node])
    (depth : Nat) : (outlineAll depth nodes).map Prod.snd = traverse nodes := by
  induction nodes with
  | nil => rw [outlineAll, List.map_nil, traverse_nil]
  | cons node nodes ih =>
      rw [List.forall_mem_cons] at each
      rw [outlineAll, List.map_append, each.1, ih each.2, ← traverse_append]
      rfl

theorem map_snd_outline (depth : Nat) (node : Node) :
    (outline depth node).map Prod.snd = traverse [node] := by
  induction node using Node.induction generalizing depth with
  | leaf kind token => simp [outline]
  | branch kind span children ih =>
      rw [outline, List.map_cons, map_snd_outlineAll_of_forall ih, traverse_branch_cons,
        traverse_nil, List.append_nil]

/-- Outlines list nodes in the order in which they are traversed. -/
theorem map_snd_outlineAll (depth : Nat) (nodes : List Node) :
    (outlineAll depth nodes).map Prod.snd = traverse nodes :=
  map_snd_outlineAll_of_forall (fun node _ depth => map_snd_outline depth node) depth

/-! ## Sketches -/

/-- The nodes of a forest with their depths and kinds, and with the texts of the leaves. -/
def sketchAll (depth : Nat) (nodes : List Node) : List (Nat × Kind × Option String) :=
  (outlineAll depth nodes).map fun entry => (entry.1, entry.2.kind, entry.2.literal?)

@[simp]
theorem sketchAll_nil (depth : Nat) : sketchAll depth [] = [] := by
  rw [sketchAll, outlineAll, List.map_nil]

@[simp]
theorem sketchAll_leaf_cons (depth : Nat) (kind : Kind) (token : Token) (rest : List Node) :
    sketchAll depth (leaf kind token :: rest) =
      (depth, kind, some token.text) :: sketchAll depth rest := by
  simp [sketchAll, outlineAll, outline, Node.kind, literal?]

@[simp]
theorem sketchAll_enclose_cons (depth : Nat) (kind : Kind) (first : Node)
    (others rest : List Node) :
    sketchAll depth (enclose kind first others :: rest) =
      (depth, kind, none) :: (sketchAll (depth + 1) (first :: others) ++ sketchAll depth rest) := by
  simp [sketchAll, outlineAll, outline, enclose, Node.kind, literal?]

end Node

namespace Forest

variable {enclosure : Enclosure} {depth : Nat} {tokens rest others : List Token}
  {nodes : List Node}

theorem head?_map_kind_of_wording (same : others.map Token.wording = tokens.map Token.wording) :
    others.head?.map Token.kind = tokens.head?.map Token.kind := by
  have heads := congrArg (fun words => words.head?.map Prod.fst) same
  simp only [List.head?_map, Option.map_map] at heads
  exact heads

/-- Tokens that say the same are read in the same way. -/
theorem Reads.exists_reworded (reads : Reads enclosure depth tokens nodes rest)
    (same : others.map Token.wording = tokens.map Token.wording) :
    ∃ similar later, Reads enclosure depth others similar later ∧
      later.map Token.wording = rest.map Token.wording ∧
        ∀ level, Node.sketchAll level similar = Node.sketchAll level nodes := by
  -- Both readings go on in the same way at each token.  What a list leaves over says the same
  -- again, and is read on in the enclosure of the list.
  induction reads generalizing others with
  | done =>
      rw [List.map_nil, List.map_eq_nil_iff] at same
      subst same
      exact ⟨[], [], .done, rfl, fun _ => rfl⟩
  | @leaf enclosure depth token tokens rest kind nodes isLeaf _ ih =>
      rw [List.map_cons, List.map_eq_cons_iff] at same
      rcases same with ⟨other, others, rfl, sameToken, sameOthers⟩
      rcases ih sameOthers with ⟨similar, later, reads, sameLater, sameSketch⟩
      rcases Prod.mk.inj sameToken with ⟨sameKind, sameText⟩
      refine ⟨.leaf kind other :: similar, later, .leaf ?_ reads, sameLater, ?_⟩
      · rw [sameKind, head?_map_kind_of_wording sameOthers]
        exact isLeaf
      · intro level
        rw [Node.sketchAll_leaf_cons, Node.sketchAll_leaf_cons, sameText, sameSketch]
  | close kind inside =>
      rw [List.map_cons, List.map_eq_cons_iff] at same
      rcases same with ⟨other, others, rfl, sameToken, sameOthers⟩
      rcases Prod.mk.inj sameToken with ⟨sameKind, sameText⟩
      refine ⟨[.leaf .punctuation other], others, .close (sameKind.trans kind) inside,
        sameOthers, ?_⟩
      intro level
      rw [Node.sketchAll_leaf_cons, Node.sketchAll_leaf_cons, sameText]
  | stop kind inside =>
      have whole := same
      rw [List.map_cons, List.map_eq_cons_iff] at same
      rcases same with ⟨other, others, rfl, sameToken, -⟩
      have sameKind := (Prod.mk.inj sameToken).1
      exact ⟨[], other :: others, .stop (sameKind.trans kind) inside, whole, fun _ => rfl⟩
  | list kind room _ _ innerIh ih =>
      rw [List.map_cons, List.map_eq_cons_iff] at same
      rcases same with ⟨other, others, rfl, sameToken, sameOthers⟩
      rcases innerIh sameOthers with ⟨body, between, inner, sameBetween, sameBody⟩
      rcases ih sameBetween with ⟨similar, later, reads, sameLater, sameSketch⟩
      rcases Prod.mk.inj sameToken with ⟨sameKind, sameText⟩
      refine ⟨_, later, .list (sameKind.trans kind) room inner reads, sameLater, ?_⟩
      intro level
      simp only [Node.sketchAll_enclose_cons, Node.sketchAll_leaf_cons, sameText, sameBody,
        sameSketch]
  | call kind opens room _ _ innerIh ih =>
      rw [List.map_cons, List.map_cons, List.map_eq_cons_iff] at same
      rcases same with ⟨callee, others, rfl, sameCallee, sameOthers⟩
      rw [List.map_eq_cons_iff] at sameOthers
      rcases sameOthers with ⟨paren, others, rfl, sameParen, sameOthers⟩
      rcases innerIh sameOthers with ⟨body, between, inner, sameBetween, sameBody⟩
      rcases ih sameBetween with ⟨similar, later, reads, sameLater, sameSketch⟩
      rcases Prod.mk.inj sameCallee with ⟨sameKind, sameText⟩
      rcases Prod.mk.inj sameParen with ⟨sameParenKind, sameParenText⟩
      refine ⟨_, later,
        .call (sameKind.trans kind) (sameParenKind.trans opens) room inner reads, sameLater, ?_⟩
      intro level
      simp only [Node.sketchAll_enclose_cons, Node.sketchAll_leaf_cons, sameText, sameParenText,
        sameBody, sameSketch]

/-- Documents whose tokens say the same have the same sketch. -/
theorem sketchAll_ofTokens_congr (same : others.map Token.wording = tokens.map Token.wording)
    (level : Nat) :
    Node.sketchAll level (ofTokens others) = Node.sketchAll level (ofTokens tokens) := by
  rcases (reads_read .document 0 tokens).exists_reworded same with
    ⟨similar, later, reads, -, sameSketch⟩
  rw [ofTokens, reads.read_eq.1, sameSketch, ofTokens]

end Forest

namespace SyntaxTree

/-- A tree without places: its nodes in document order with their depths and kinds, and the texts
that its leaves cover. -/
def sketch (tree : SyntaxTree) : List (Nat × Kind × Option String) :=
  (tree.root.outline 0).map fun entry =>
    (entry.1, entry.2.kind, entry.2.token?.map fun _ => tree.text entry.2)

/-- The sketch of a document has the root in front of the sketch of its statements. -/
theorem sketch_parse (source : String) :
    (parse source).sketch =
      (0, .program, none) :: Node.sketchAll 1 (Forest.ofTokens (Token.scan source.toList)) := by
  have below : (parse source).root.outline 0 =
      (0, (parse source).root) ::
        Node.outlineAll 1 (Forest.ofTokens (Token.scan source.toList)) := by
    rw [parse, Node.outline]
  rw [sketch, below, List.map_cons, Node.sketchAll]
  congr 1
  apply List.map_congr_left
  intro entry listed
  have member : entry.2 ∈ (parse source).root.descendants := by
    rw [descendants_root_parse, ← Node.map_snd_outlineAll 1]
    exact List.mem_map_of_mem listed
  cases node : entry.2 with
  | leaf kind token =>
      rw [node] at member
      simp [text_leaf member, Node.literal?]
  | branch kind span children => rfl

end SyntaxTree

end SetScript
