import SetScript.Binding
import SetScript.Text.Position

/-!
# Definitions of variables

The definition of the variable under a caret: the places of the calls that bind
it.  Nothing is defined where the caret is not on a string literal, or where no
call binds its text.
-/

namespace SetScript

open Text

/-- A range in a document. -/
structure Location where
  uri : String
  range : Range
deriving DecidableEq

/-- The places where a variable is bound. -/
inductive Definition
  | single (location : Location)
  | multiple (locations : List Location)
deriving DecidableEq

namespace Definition

/-- The definition at some places; none when there is no place. -/
def ofLocations? : List Location → Option Definition
  | [] => none
  | [location] => some (single location)
  | locations => some (multiple locations)

/-- The places of a definition. -/
def locations : Definition → List Location
  | single location => [location]
  | multiple locations => locations

/-- The empty location at the start of a node. -/
def caretAt (tree : SyntaxTree) (uri : String) (node : Node) : Location :=
  ⟨uri, .caret (.ofPoint tree.content node.span.start.point)⟩

/-- The definition of the variable under a caret. -/
def find? (tree : SyntaxTree) (uri : String) (position : Position) : Option Definition :=
  let node := tree.nodeAt (position.toPoint tree.content)
  if node.kind = .string then
    node.literal?.bind fun name =>
      ofLocations? ((Binding.calls tree.root name).map (caretAt tree uri))
  else
    none

end Definition

end SetScript
