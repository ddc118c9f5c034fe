import SetScript.Tree.SyntaxTree

/-!
# Binding calls

A script has no declarations.  A call such as `set("name", value)`, whose first
argument is a string literal, binds the variable of that name.  Names are
compared as they are written, quotes included.

Two callees bind.  `setr` counts only for names that no `set` binds, even where
it comes first in the document.
-/

namespace SetScript.Binding

/-- A callee whose calls bind variables.  Rules of lower priority number go
first. -/
structure Rule where
  callee : String
  priority : Nat

/-- The binding callees. -/
def rules : List Rule :=
  [⟨"set", 0⟩, ⟨"setr", 1⟩]

/-- The rules in the order in which they are consulted. -/
def rulesByPriority : List Rule :=
  rules.mergeSort fun first second => first.priority ≤ second.priority

/-- The number of children of an argument list in front of its first argument:
the opening parenthesis. -/
def leadingDelimiters : Nat :=
  1

/-- The name that a call calls. -/
def calleeName? (node : Node) : Option String :=
  if node.kind = .call then
    ((node.namedChild? 0).filter (·.kind == .identifier)).bind Node.literal?
  else
    none

/-- The argument list of a call. -/
def argumentList? (node : Node) : Option Node :=
  if node.kind = .call then
    (node.namedChild? 1).filter (·.kind == .arguments)
  else
    none

/-- The first argument of a call.  There is none when a delimiter stands in its
place. -/
def firstArgument? (node : Node) : Option Node :=
  (argumentList? node).bind fun list =>
    (list.child? 0).bind fun opening =>
      if opening.isNamed then none
      else (list.child? leadingDelimiters).filter Node.isNamed

/-- The string literal that is the first argument of a call. -/
def firstString? (node : Node) : Option Node :=
  (firstArgument? node).filter (·.kind == .string)

/-- The name that a call binds, if its callee binds names. -/
def boundName? (node : Node) : Option String :=
  (firstString? node).bind Node.literal?

/-- Whether a call binds a name by a rule. -/
def Rule.binds (rule : Rule) (name : String) (call : Node) : Bool :=
  calleeName? call == some rule.callee && boundName? call == some name

/-- The calls under a root that bind a name by a rule, in document order. -/
def Rule.calls (rule : Rule) (root : Node) (name : String) : List Node :=
  (root.descendantsOfKind .call).filter (rule.binds name)

/-- The calls that bind a name: those of the first rule that has any. -/
def calls (root : Node) (name : String) : List Node :=
  ((rulesByPriority.map fun rule => rule.calls root name).find? (!·.isEmpty)).getD []

/-- Whether the callee of a call is one of the binding callees. -/
def hasBindingCallee (call : Node) : Bool :=
  (calleeName? call).any fun name => rules.any fun rule => rule.callee == name

/-- The names bound under a root, in document order. -/
def names (root : Node) : List String :=
  ((root.descendantsOfKind .call).filter hasBindingCallee).filterMap boundName?

/-- The names bound under a root, each once, in ascending order. -/
def sortedNames (root : Node) : List String :=
  (names root).eraseDups.mergeSort fun first second => first ≤ second

end SetScript.Binding
