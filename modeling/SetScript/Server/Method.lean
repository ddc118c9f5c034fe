import SetScript.Json.Writer
import SetScript.Server.Params

/-!
# Methods

The methods that the server knows.  Of a known request the parameters are checked
against a schema, also where the server does nothing further for it.
-/

namespace SetScript

/-- What parameters a method takes. -/
inductive Expectation
  /-- No parameters at all. -/
  | nothing
  | schema (expected : Schema)

namespace Expectation

/-- The parameters of a message, checked; null for a method without
parameters. -/
def check (expectation : Expectation) (params? : Option Json) : Except Complaint Json :=
  match expectation, params? with
  | nothing, none => .ok .null
  | nothing, some params => .error (.unexpectedParams params.render)
  | schema _, none => .error .missingParams
  | .schema expected, some params =>
      match expected.problem? false params with
      | none => .ok params
      | some complaint => .error complaint

end Expectation

/-- What the server does about a method. -/
inductive Duty
  /-- A request that the server performs. -/
  | request (expects : Expectation) (read : Json → Call)
  /-- A notification that the server performs. -/
  | notification (expects : Expectation) (read : Json → Call)
  /-- A request that the server knows and does not serve. -/
  | unserved (expects : Expectation)
  /-- A notification that the server knows and ignores. -/
  | ignored

/-- A method that the server knows. -/
structure Method where
  name : String
  duty : Duty

namespace Method

def startName : String :=
  "initialize"

def shutdownName : String :=
  "shutdown"

def exitName : String :=
  "exit"

/-- The notification that a request is no longer of interest. -/
def cancelName : String :=
  "$/cancelRequest"

/-- The methods that the server performs. -/
def performed : List Method :=
  [⟨startName, .request (.schema .start) Params.readStart⟩,
   ⟨"initialized", .notification (.schema .started) fun _ => .started⟩,
   ⟨"textDocument/didOpen", .notification (.schema .opened) Params.readOpened⟩,
   ⟨"textDocument/didChange", .notification (.schema .changed) Params.readChanged⟩,
   ⟨"textDocument/didClose", .notification (.schema .closed) Params.readClosed⟩,
   ⟨"textDocument/definition", .request (.schema .definition) Params.readDefinition⟩,
   ⟨shutdownName, .request .nothing fun _ => .shutdown⟩]

/-- Known requests that are not served, from their names and the schemas of their
parameters. -/
def unserved (methods : List (String × Schema)) : List Method :=
  methods.map fun (name, schema) => ⟨name, .unserved (.schema schema)⟩

/-- The requests about a place in a document that are not served. -/
def unservedAtPlace : List Method :=
  unserved
    [("textDocument/declaration", .definition),
     ("textDocument/typeDefinition", .definition),
     ("textDocument/implementation", .definition),
     ("textDocument/references", .references),
     ("textDocument/prepareCallHierarchy", .placeQuery "CallHierarchyPrepareParams" []),
     ("textDocument/prepareTypeHierarchy", .placeQuery "TypeHierarchyPrepareParams" []),
     ("textDocument/documentHighlight", .placeQueryInParts "DocumentHighlightParams" []),
     ("textDocument/hover", .placeQuery "HoverParams" []),
     ("textDocument/moniker", .placeQueryInParts "MonikerParams" []),
     ("textDocument/completion", .completions),
     ("textDocument/signatureHelp", .signatureHelp),
     ("textDocument/rename", .nameChange),
     ("textDocument/prepareRename", .documentPosition),
     ("textDocument/linkedEditingRange", .placeQuery "LinkedEditingRangeParams" []),
     ("textDocument/onTypeFormatting", .typingFormatting)]

/-- The requests about a document that are not served. -/
def unservedOnDocument : List Method :=
  unserved
    [("textDocument/documentLink", .documentQuery "DocumentLinkParams" []),
     ("textDocument/codeLens", .documentQuery "CodeLensParams" []),
     ("textDocument/foldingRange", .documentQuery "FoldingRangeParams" []),
     ("textDocument/selectionRange", .selections),
     ("textDocument/documentSymbol", .documentQuery "DocumentSymbolParams" []),
     ("textDocument/semanticTokens/full", .documentQuery "SemanticTokensParams" []),
     ("textDocument/semanticTokens/full/delta",
      .documentQuery "SemanticTokensDeltaParams" [("previousResultId", .string)]),
     ("textDocument/semanticTokens/range",
      .documentQuery "SemanticTokensRangeParams" [("range", .range)]),
     ("textDocument/inlineValue", .inlineValues),
     ("textDocument/inlayHint", .hints),
     ("textDocument/diagnostic", .documentDiagnostics),
     ("textDocument/codeAction", .codeActions),
     ("textDocument/documentColor", .documentQuery "DocumentColorParams" []),
     ("textDocument/colorPresentation", .colorPresentations),
     ("textDocument/formatting", .formatting),
     ("textDocument/rangeFormatting", .rangeFormatting),
     ("textDocument/willSaveWaitUntil", .saving)]

/-- The requests to fill in an item, or about one, that are not served. -/
def unservedOnItem : List Method :=
  unserved
    [("callHierarchy/incomingCalls", .callQuery "CallHierarchyIncomingCallsParams"),
     ("callHierarchy/outgoingCalls", .callQuery "CallHierarchyOutgoingCallsParams"),
     ("typeHierarchy/supertypes", .typeQuery "TypeHierarchySupertypesParams"),
     ("typeHierarchy/subtypes", .typeQuery "TypeHierarchySubtypesParams"),
     ("documentLink/resolve", .documentLink),
     ("codeLens/resolve", .codeLens),
     ("inlayHint/resolve", .hint),
     ("completionItem/resolve", .completion),
     ("codeAction/resolve", .codeAction),
     ("workspaceSymbol/resolve", .workspaceSymbol)]

/-- The requests about the workspace that are not served. -/
def unservedOnWorkspace : List Method :=
  unserved
    [("workspace/diagnostic", .workspaceDiagnostics),
     ("workspace/symbol", .symbols),
     ("workspace/willCreateFiles", .creations),
     ("workspace/willRenameFiles", .renamings),
     ("workspace/willDeleteFiles", .deletions),
     ("workspace/executeCommand", .execution)]

/-- The notifications that are ignored. -/
def ignored : List Method :=
  ["textDocument/willSave", "textDocument/didSave", "workspace/didChangeConfiguration",
   "workspace/didChangeWorkspaceFolders", "workspace/didChangeWatchedFiles",
   "workspace/didCreateFiles", "workspace/didRenameFiles", "workspace/didDeleteFiles"].map
    fun name => ⟨name, .ignored⟩

/-- All known methods but those that cancel a request or end the session. -/
def all : List Method :=
  performed ++ unservedAtPlace ++ unservedOnDocument ++ unservedOnItem ++ unservedOnWorkspace ++
    ignored

/-- The known method of a name. -/
def find? (name : String) : Option Method :=
  all.find? (·.name == name)

end Method

end SetScript
