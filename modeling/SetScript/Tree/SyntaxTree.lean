import SetScript.Tree.Forest
import SetScript.Tree.Locate
import SetScript.Text.Quoted

/-!
# Syntax trees

The tree of a document: its text, and the root node that covers all of it.
Parsing never fails.
-/

namespace SetScript

open Text

/-- A document with its syntax. -/
structure SyntaxTree where
  source : String
  root : Node

namespace SyntaxTree

/-- The characters of the document. -/
def content (tree : SyntaxTree) : List Char :=
  tree.source.toList

/-- The syntax tree of a document. -/
def parse (source : String) : SyntaxTree :=
  let content := source.toList
  let span : Span := ⟨.origin, Mark.origin.after content⟩
  ⟨source, .branch .program span (Forest.ofTokens (Token.scan content))⟩

/-- The text that a node of the tree covers. -/
def text (tree : SyntaxTree) (node : Node) : String :=
  node.text tree.content

/-- The path to the smallest node at a point; the root where there is none. -/
def pathAt (tree : SyntaxTree) (point : Point) : Path :=
  tree.root.locate point

/-- The smallest node at a point; the root where there is none. -/
def nodeAt (tree : SyntaxTree) (point : Point) : Node :=
  (tree.root.follow? (tree.pathAt point)).getD tree.root

/-- The tokens that fit nowhere, in document order. -/
def errors (tree : SyntaxTree) : List Node :=
  tree.root.descendantsOfKind .error

/-- A point as row and column. -/
def describePoint (point : Point) : String :=
  toString point.row ++ ":" ++ toString point.column

/-- A node as its kind, its extent and its text in quotes. -/
def describeNode (tree : SyntaxTree) (node : Node) : String :=
  node.kind.name ++ " [" ++ describePoint node.span.start.point ++ " - " ++
    describePoint node.span.stop.point ++ "] " ++ quote (tree.text node)

/-- A tree as its root. -/
def describe (tree : SyntaxTree) : String :=
  "SyntaxTree \x7b root: " ++ tree.describeNode tree.root ++ " \x7d"

end SyntaxTree

end SetScript
