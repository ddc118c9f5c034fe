import SetScript.Proofs.Binding.Lookup
import SetScript.Proofs.Tree.Outline

/-!
# Rendering a document

A document is rendered by writing each of its tokens on a line of its own.  Comments, blanks and
indentation are gone, and everything else is kept: the tokens say the same, the tree has the same
nodes with the same texts, and the same names are bound.  Rendering again changes nothing.

Bound names are found through sites, and the sites of a document are read off what its tokens say.
-/

namespace SetScript

open Text

namespace Binding

/-- What a site says: its callee and the name it is called with. -/
def Site.wording (site : Site) : String × String :=
  (site.callee.text, site.literal.text)

/-- Whether the callee of some wording binds names. -/
def isBinding (words : String × String) : Bool :=
  rules.any fun rule => rule.callee == words.1

/-- The name that a call binds by one of the rules is that of its site. -/
theorem boundName?_eq_site (call : Node) :
    (if hasBindingCallee call then boundName? call else none) =
      (((site? call).map Site.wording).filter isBinding).map Prod.snd := by
  rw [hasBindingCallee, calleeName?_eq, boundName?_eq, site?]
  cases calleeToken? call with
  | none => rfl
  | some callee =>
      cases literalToken? call with
      | none => simp
      | some literal =>
          by_cases binding : isBinding (callee.text, literal.text) = true
          · have listed : (rules.any fun rule => rule.callee == callee.text) = true := binding
            simp [listed, Site.wording, Option.filter_some, binding]
          · have listed : ¬ (rules.any fun rule => rule.callee == callee.text) = true := binding
            simp [listed, Site.wording, Option.filter_some, binding]

/-- Only calls have binding callees. -/
theorem kind_of_hasBindingCallee {node : Node} (binding : hasBindingCallee node = true) :
    node.kind = .call := by
  rcases hasBindingCallee_iff.mp binding with ⟨rule, -, called⟩
  exact kind_of_calleeName?_eq_some called

/-- The names bound under a root are those of its sites. -/
theorem names_eq (root : Node) :
    names root =
      (((root.descendants.filterMap site?).map Site.wording).filter isBinding).map Prod.snd := by
  rw [names, Node.descendantsOfKind, List.filter_filter, List.filterMap_filter,
    List.map_filterMap, List.filter_filterMap, List.map_filterMap]
  apply List.filterMap_congr
  intro node _
  rw [← boundName?_eq_site]
  by_cases binding : hasBindingCallee node = true
  · simp [binding, kind_of_hasBindingCallee binding]
  · simp [binding]

/-- Whether some tokens start with a site is told from what they say. -/
theorem map_wording_siteAt? {first second : List Token}
    (same : first.map Token.wording = second.map Token.wording) (depth : Nat) :
    (siteAt? depth first).map Site.wording = (siteAt? depth second).map Site.wording := by
  -- Lists of different lengths do not say the same, and only from three tokens on is there a site.
  rcases first with _ | ⟨callee, _ | ⟨paren, _ | ⟨literal, rest⟩⟩⟩ <;>
    rcases second with _ | ⟨otherCallee, _ | ⟨otherParen, _ | ⟨otherLiteral, otherRest⟩⟩⟩ <;>
      simp_all [siteAt?, Token.wording, Site.wording]

/-- Sites are read off what tokens say. -/
theorem map_wording_sitesFrom {first second : List Token}
    (same : first.map Token.wording = second.map Token.wording) (depth : Nat) :
    (sitesFrom depth first).map Site.wording = (sitesFrom depth second).map Site.wording := by
  induction first generalizing second depth with
  | nil =>
      rw [List.map_nil, eq_comm, List.map_eq_nil_iff] at same
      rw [same]
  | cons token tokens ih =>
      have sameSite := map_wording_siteAt? same depth
      rw [List.map_cons, eq_comm, List.map_eq_cons_iff] at same
      rcases same with ⟨other, others, rfl, sameToken, sameOthers⟩
      rw [sitesFrom, sitesFrom, List.map_append, List.map_append, ← Option.toList_map,
        ← Option.toList_map, sameSite, (Prod.mk.inj sameToken).1, ih sameOthers.symm]

end Binding

/-- A document and its rendering say the same: their tokens have the same kinds and texts, their
trees the same nodes and leaf texts, and the same names are bound in them.  A rendering is its own
rendering. -/
theorem SyntaxTree.parse_render (source : String) :
    let rendered := Token.render (Token.scan source.toList)
    (Token.scan rendered.toList).map Token.wording =
        (Token.scan source.toList).map Token.wording ∧
      (parse rendered).sketch = (parse source).sketch ∧
      Binding.names (parse rendered).root = Binding.names (parse source).root ∧
      Token.render (Token.scan rendered.toList) = rendered := by
  intro rendered
  have same := Token.map_wording_scan_render_scan source.toList
  refine ⟨same, ?_, ?_, Token.render_congr same⟩
  · rw [sketch_parse, sketch_parse, Forest.sketchAll_ofTokens_congr same]
  · rw [Binding.names_eq, Binding.names_eq, Binding.filterMap_site?_descendants,
      Binding.filterMap_site?_descendants, Binding.map_wording_sitesFrom same]

end SetScript
