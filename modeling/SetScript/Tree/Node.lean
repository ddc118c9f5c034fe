import SetScript.Lexical.Token

/-!
# Syntax nodes

A node is a leaf, which holds one token, or a branch, which holds a list of
nodes.  Delimiters are kept as leaves of kind `punctuation`; all other kinds are
*named*.

`traverse` lists the nodes of a forest in document order with a work list, and
`outline` does so by recursion, with the depth of each node.
-/

namespace SetScript

open Text

/-- The kinds of nodes. -/
inductive Kind
  | program
  | call
  | arguments
  | identifier
  | string
  | number
  | parenthesized
  | punctuation
  | error
deriving DecidableEq

namespace Kind

/-- Every kind, in the order in which they are listed. -/
def all : List Kind :=
  [program, call, arguments, identifier, string, number, parenthesized, punctuation, error]

/-- The name of a kind in descriptions of trees. -/
def name : Kind → String
  | program => "Program"
  | call => "Call"
  | arguments => "Arguments"
  | identifier => "Identifier"
  | string => "String"
  | number => "Number"
  | parenthesized => "Parenthesized"
  | punctuation => "Punctuation"
  | error => "Error"

/-- Every kind but punctuation is named. -/
def isNamed : Kind → Bool
  | punctuation => false
  | _ => true

end Kind

/-- A node of a syntax tree. -/
inductive Node
  | leaf (kind : Kind) (token : Token)
  | branch (kind : Kind) (span : Span) (children : List Node)

namespace Node

def kind : Node → Kind
  | leaf kind _ => kind
  | branch kind _ _ => kind

def span : Node → Span
  | leaf _ token => token.span
  | branch _ span _ => span

/-- The children of a node in document order, punctuation included. -/
def children : Node → List Node
  | leaf _ _ => []
  | branch _ _ children => children

/-- The text of the token that a leaf holds. -/
def literal? : Node → Option String
  | leaf _ token => some token.text
  | branch _ _ _ => none

def isNamed (node : Node) : Bool :=
  node.kind.isNamed

def namedChildren (node : Node) : List Node :=
  node.children.filter isNamed

/-- The child at an index, counting punctuation. -/
def child? (node : Node) (index : Nat) : Option Node :=
  node.children[index]?

/-- The child at an index, skipping punctuation. -/
def namedChild? (node : Node) (index : Nat) : Option Node :=
  node.namedChildren[index]?

/-- The verbatim text of a document that a node covers. -/
def text (node : Node) (source : List Char) : String :=
  String.ofList ((slice? source node.span.start.byte node.span.stop.byte).getD [])

/-- A branch that reaches from the start of its first child to the end of its
last one. -/
def enclose (kind : Kind) (first : Node) (others : List Node) : Node :=
  branch kind ⟨first.span.start, ((first :: others).getLast (by simp)).span.stop⟩
    (first :: others)

mutual

/-- The number of nodes in a tree. -/
def size : Node → Nat
  | leaf _ _ => 1
  | branch _ _ children => 1 + sizeAll children

/-- The number of nodes in a forest. -/
def sizeAll : List Node → Nat
  | [] => 0
  | node :: rest => size node + sizeAll rest

end

theorem size_eq (node : Node) : node.size = 1 + sizeAll node.children := by
  cases node <;> simp [size, children, sizeAll]

theorem sizeAll_append (first second : List Node) :
    sizeAll (first ++ second) = sizeAll first + sizeAll second := by
  induction first with
  | nil => simp [sizeAll]
  | cons node rest ih => simp [sizeAll, ih, Nat.add_assoc]

/-- The nodes of a forest in document order, parents before children.  The list
holds the work still to be done: the children of a visited node come next. -/
def traverse : List Node → List Node
  | [] => []
  | node :: rest => node :: traverse (node.children ++ rest)
termination_by work => sizeAll work
decreasing_by
  simp only [sizeAll_append, sizeAll, size_eq node]
  omega

/-- All nodes strictly below a node, in document order. -/
def descendants (node : Node) : List Node :=
  traverse node.children

/-- The nodes of one kind strictly below a node, in document order. -/
def descendantsOfKind (node : Node) (kind : Kind) : List Node :=
  node.descendants.filter (·.kind == kind)

mutual

/-- A node and all nodes below it, parents before children, with their depths. -/
def outline (depth : Nat) : Node → List (Nat × Node)
  | leaf kind token => [(depth, leaf kind token)]
  | branch kind span children =>
      (depth, branch kind span children) :: outlineAll (depth + 1) children

/-- The nodes of a forest, parents before children, with their depths. -/
def outlineAll (depth : Nat) : List Node → List (Nat × Node)
  | [] => []
  | node :: rest => outline depth node ++ outlineAll depth rest

end

end Node

end SetScript
