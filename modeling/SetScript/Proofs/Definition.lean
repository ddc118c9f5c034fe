import SetScript.Definition
import SetScript.Proofs.Binding.Lookup
import SetScript.Proofs.Tree.Caret

/-!
# Definitions by tokens

What is defined under a caret can be told from the tokens of the document and the
literal under the caret, without the tree: the places of a definition are the starts of
the tokens at the indices of the name.  They are listed in document order, and each of
them once.
-/

namespace SetScript.Definition

open Text Binding

/-! ## Definitions at some places -/

section Places

variable {places : List Location}

theorem ofLocations?_eq_none_iff : ofLocations? places = none ↔ places = [] := by
  rcases places with _ | ⟨first, _ | ⟨second, others⟩⟩ <;> simp [ofLocations?]

theorem ofLocations?_eq_single_iff {place : Location} :
    ofLocations? places = some (.single place) ↔ places = [place] := by
  rcases places with _ | ⟨first, _ | ⟨second, others⟩⟩ <;> simp [ofLocations?]

theorem ofLocations?_eq_multiple_iff {others : List Location} :
    ofLocations? places = some (.multiple others) ↔ others = places ∧ 2 ≤ places.length := by
  rcases places with _ | ⟨first, _ | ⟨second, rest⟩⟩ <;> simp [ofLocations?, eq_comm]

end Places

/-! ## Definitions in a document -/

/-- The empty locations at the starts of the tokens at some indices. -/
def locationsAt (source uri : String) (indices : List Nat) : List Location :=
  (tokensAt (Token.scan source.toList) indices).map fun token =>
    ⟨uri, .caret (token.startPosition source.toList)⟩

/-- The places of a name are where it is bound. -/
theorem map_caretAt_calls (source uri name : String) :
    (calls (SyntaxTree.parse source).root name).map (caretAt (SyntaxTree.parse source) uri) =
      locationsAt source uri (bindingIndices name (Token.scan source.toList)) := by
  let place (mark : Mark) : Location := ⟨uri, .caret (.ofPoint source.toList mark.point)⟩
  have starts := congrArg (List.map place) (map_start_calls source name)
  rw [List.map_map, List.map_map] at starts
  exact starts

/-- On a literal, the definition is made of the places of the calls that bind its text. -/
theorem find?_of_nodeAt_eq {source : String} {position : Position} {token : Token}
    (caret : (SyntaxTree.parse source).nodeAt (position.toPoint source.toList) =
      .leaf .string token) (uri : String) :
    find? (SyntaxTree.parse source) uri position =
      ofLocations? ((calls (SyntaxTree.parse source).root token.text).map
        (caretAt (SyntaxTree.parse source) uri)) := by
  simp only [find?, SyntaxTree.content_parse, caret, Node.kind_leaf, if_true]
  rfl

/-- Nothing is defined under a caret on a literal exactly when no call binds its text. -/
theorem find?_eq_none_iff {source : String} {position : Position} {token : Token}
    (caret : (SyntaxTree.parse source).nodeAt (position.toPoint source.toList) =
      .leaf .string token) (uri : String) :
    find? (SyntaxTree.parse source) uri position = none ↔
      token.text ∉ names (SyntaxTree.parse source).root := by
  rw [find?_of_nodeAt_eq caret, ofLocations?_eq_none_iff, List.map_eq_nil_iff, calls_eq_nil_iff]

/-- The places of a name come one after another. -/
theorem pairwise_locationsAt {source : String} (fits : utf8Length source.toList < UInt32.size)
    (uri name : String) :
    (locationsAt source uri (bindingIndices name (Token.scan source.toList))).Pairwise
      fun first second => first.range.start < second.range.start := by
  rw [locationsAt, List.pairwise_map]
  exact pairwise_tokensAt (Token.pairwise_startPosition fits) (pairwise_bindingIndices _ _)

/-- The definition under a caret, told from the tokens. -/
theorem find?_eq_locationsAt {source : String} (fits : utf8Length source.toList < UInt32.size)
    (uri : String) (position : Position) :
    let tree := SyntaxTree.parse source
    let tokens := Token.scan source.toList
    let node := tree.nodeAt (position.toPoint tree.content)
    ((∀ token, node ≠ .leaf .string token) → find? tree uri position = none) ∧
      ∀ token, node = .leaf .string token →
        let places := locationsAt source uri (bindingIndices token.text tokens)
        (find? tree uri position = none ↔ places = []) ∧
          (∀ place, find? tree uri position = some (.single place) ↔ places = [place]) ∧
          (∀ others, find? tree uri position = some (.multiple others) ↔
            others = places ∧ 2 ≤ places.length) ∧
          places.Pairwise fun first second => first.range.start < second.range.start := by
  intro tree tokens node
  constructor
  · intro noLiteral
    have notString : node.kind ≠ .string := by
      intro string
      obtain ⟨token, -, -, literal⟩ := SyntaxTree.nodeAt_of_kind_eq_string string
      exact noLiteral token literal
    exact if_neg notString
  · intro token caret places
    rw [find?_of_nodeAt_eq caret, map_caretAt_calls]
    exact ⟨ofLocations?_eq_none_iff, fun _ => ofLocations?_eq_single_iff,
      fun _ => ofLocations?_eq_multiple_iff, pairwise_locationsAt fits uri token.text⟩

/-- Two calls of `set` after one of `setr`: only those of `set` count. -/
theorem find?_eq_locationsAt_multiple :
    find? (SyntaxTree.parse "setr('a');set('a');set('a')") "file:///a" ⟨0, 6⟩ =
      some (.multiple
        [⟨"file:///a", .caret ⟨0, 10⟩⟩, ⟨"file:///a", .caret ⟨0, 19⟩⟩]) := by
  have fits : utf8Length "setr('a');set('a');set('a')".toList < UInt32.size := by decide +kernel
  have caret : (SyntaxTree.parse "setr('a');set('a');set('a')").nodeAt
      (Position.toPoint "setr('a');set('a');set('a')".toList ⟨0, 6⟩) =
        .leaf .string ⟨.string, "'a'", ⟨⟨5, ⟨0, 5⟩⟩, ⟨8, ⟨0, 8⟩⟩⟩⟩ :=
    SyntaxTree.nodeAt_of_caret (by decide +kernel) rfl fits (by decide +kernel) (by decide +kernel)
  have places := (find?_eq_locationsAt fits "file:///a" ⟨0, 6⟩).2 _ caret
  exact (places.2.2.1 _).mpr (by decide +kernel)

end SetScript.Definition
