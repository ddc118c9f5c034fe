import SetScript.Binding
import SetScript.Config.Basic
import SetScript.Text.Position

/-!
# Diagnostics

Three problems are reported: a `get` of a variable that no call binds, a token
that fits nowhere, and a list without closing parenthesis.  Diagnostics are
ordered by where they start; those that start at one place keep the order in
which the problems are named here.
-/

namespace SetScript

open Text

/-- How severe a diagnostic is. -/
inductive Severity
  | error
  | warning
deriving DecidableEq

/-- What is wrong with a document. -/
inductive Problem
  /-- No call binds the variable of this name. -/
  | unresolved (name : String)
  /-- The token with this text fits nowhere. -/
  | unexpected (text : String)
  /-- A list has no closing parenthesis. -/
  | unclosed
deriving DecidableEq

namespace Problem

def severity : Problem → Severity
  | unresolved _ => .warning
  | unexpected _ => .error
  | unclosed => .error

def message : Problem → String
  | unresolved name => "No `set` or `setr` binding found for variable " ++ name
  | unexpected text => "Unexpected " ++ text
  | unclosed => "Missing closing parenthesis"

end Problem

/-- A problem and where it is. -/
structure Diagnostic where
  range : Range
  problem : Problem
deriving DecidableEq

namespace Diagnostic

/-- The name under which diagnostics are reported. -/
def source : String :=
  "setlang"

/-- The callee that reads a variable. -/
def readingCallee : String :=
  "get"

/-- The range of a node. -/
def nodeRange (tree : SyntaxTree) (node : Node) : Range :=
  .ofSpan tree.content node.span

/-- The literals that name the variables read in a document, in document order. -/
def reads (root : Node) : List Node :=
  ((root.descendantsOfKind .call).filter fun call =>
    Binding.calleeName? call == some readingCallee).filterMap Binding.firstString?

/-- A warning for each variable that is read and not bound. -/
def unresolved (tree : SyntaxTree) : List Diagnostic :=
  let bound := Binding.names tree.root
  (reads tree.root).filterMap fun node =>
    (node.literal?.filter fun name => !bound.contains name).map fun name =>
      ⟨nodeRange tree node, .unresolved name⟩

/-- An error for each token that fits nowhere. -/
def unexpected (tree : SyntaxTree) : List Diagnostic :=
  tree.errors.map fun node => ⟨nodeRange tree node, .unexpected (tree.text node)⟩

/-- Whether a list ends with its own closing parenthesis. -/
def isClosed (list : Node) : Bool :=
  1 < list.children.length &&
    list.children.getLast?.any fun last => !last.isNamed && last.literal? == some ")"

/-- The lists of a document: argument lists, then parenthesized lists. -/
def lists (root : Node) : List Node :=
  root.descendantsOfKind .arguments ++ root.descendantsOfKind .parenthesized

/-- An error at the end of each list without closing parenthesis. -/
def unclosed (tree : SyntaxTree) : List Diagnostic :=
  ((lists tree.root).filter (!isClosed ·)).map fun list =>
    ⟨.caret (.ofPoint tree.content list.span.stop.point), .unclosed⟩

/-- Whether a diagnostic starts no later than another. -/
def le (first second : Diagnostic) : Bool :=
  first.range.start.le second.range.start

/-- The diagnostics of a document that are switched on. -/
def collect (tree : SyntaxTree) (switches : Switches) : List Diagnostic :=
  if switches.enabled then
    let warnings := if switches.unresolvedVariables then unresolved tree else []
    let errors := if switches.syntaxErrors then unexpected tree ++ unclosed tree else []
    (warnings ++ errors).mergeSort le
  else
    []

end Diagnostic

end SetScript
