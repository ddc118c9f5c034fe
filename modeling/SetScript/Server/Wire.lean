import SetScript.Server.Basic

/-!
# Values on the wire

How positions, ranges, definitions, diagnostics, results and notices are sent to
the editor.
-/

namespace SetScript

open Text

namespace Text

def Position.toJson (position : Position) : Json :=
  .ofFields
    [("line", .ofNat position.line.toNat), ("character", .ofNat position.character.toNat)]

def Range.toJson (range : Range) : Json :=
  .ofFields [("start", range.start.toJson), ("end", range.stop.toJson)]

end Text

def Location.toJson (location : Location) : Json :=
  .ofFields [("uri", .string location.uri), ("range", location.range.toJson)]

/-- One place is sent as it is, several as an array. -/
def Definition.toJson : Definition → Json
  | .single location => location.toJson
  | .multiple locations => .array (locations.map Location.toJson)

/-- The number of a severity. -/
def Severity.code : Severity → Nat
  | .error => 1
  | .warning => 2

def Diagnostic.toJson (diagnostic : Diagnostic) : Json :=
  .ofFields
    [("range", diagnostic.range.toJson),
     ("severity", .ofNat diagnostic.problem.severity.code),
     ("source", .string Diagnostic.source),
     ("message", .string diagnostic.problem.message)]

/-- What the server can do, and who it is. -/
def Server.introduction : Json :=
  .ofFields
    [("capabilities", .ofFields
      [("definitionProvider", .bool true), ("textDocumentSync", .ofNat 1)]),
     ("serverInfo", .ofFields
      [("name", .string Server.name), ("version", .string Server.version)])]

def Result.toJson : Result → Json
  | .nothing => .null
  | .started => Server.introduction
  | .definition none => .null
  | .definition (some found) => found.toJson

/-- The number of a log level. -/
def LogLevel.code : LogLevel → Nat
  | .warning => 2
  | .info => 3

/-- The message that carries a notice. -/
def Notice.toJson : Notice → Json
  | .log level message =>
      .ofFields
        [("jsonrpc", .string "2.0"),
         ("method", .string "window/logMessage"),
         ("params", .ofFields
          [("type", .ofNat level.code), ("message", .string message)])]
  | .publish uri diagnostics =>
      .ofFields
        [("jsonrpc", .string "2.0"),
         ("method", .string "textDocument/publishDiagnostics"),
         ("params", .ofFields
          [("uri", .string uri), ("diagnostics", .array (diagnostics.map Diagnostic.toJson))])]

end SetScript
