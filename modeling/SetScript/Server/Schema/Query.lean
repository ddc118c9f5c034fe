import SetScript.Server.Schema.Item

/-!
# Schemas of queries

The parameters of requests.  Most of them have fields of their own besides those
that requests have in common: a place in a document, a token for reports on the
work, and a token for results in parts.
-/

namespace SetScript.Schema

/-! ## Common parts -/

def workDone : Schema :=
  .record "WorkDoneProgressParams" [("workDoneToken", .optional token)]

def partialResult : Schema :=
  .record "PartialResultParams" [("partialResultToken", .optional token)]

/-- A query with both tokens. -/
def query (name : String) (own : List (String × Schema)) : Schema :=
  .merged name own [workDone, partialResult]

/-- A query at a place, answered at once. -/
def placeQuery (name : String) (own : List (String × Schema)) : Schema :=
  .merged name own [documentPosition, workDone]

/-- A query at a place, answered in parts. -/
def placeQueryInParts (name : String) (own : List (String × Schema)) : Schema :=
  .merged name own [documentPosition, workDone, partialResult]

/-- The field that names a document. -/
def ofDocument : String × Schema :=
  ("textDocument", documentIdentifier)

/-- A query about a document, answered in parts. -/
def documentQuery (name : String) (own : List (String × Schema)) : Schema :=
  query name (ofDocument :: own)

/-- A query about a document, answered at once. -/
def documentQueryAtOnce (name : String) (own : List (String × Schema)) : Schema :=
  .merged name (ofDocument :: own) [workDone]

/-! ## Queries at a place -/

/-- Where something is defined, declared or implemented. -/
def definition : Schema :=
  placeQueryInParts "GotoDefinitionParams" []

def references : Schema :=
  placeQueryInParts "ReferenceParams"
    [("context", .record "ReferenceContext" [("includeDeclaration", .bool)])]

def completions : Schema :=
  placeQueryInParts "CompletionParams"
    [("context", .optional (.record "CompletionContext"
      [("triggerKind", .signed), ("triggerCharacter", .optional .string)]))]

def signature : Schema :=
  .record "SignatureInformation"
    [("label", .string),
     ("documentation", .optional documentation),
     ("parameters", .optional (.list (.record "ParameterInformation"
      [("label", .either "ParameterLabel" [.string, .tuple [.unsigned, .unsigned]]),
       ("documentation", .optional documentation)]))),
     ("activeParameter", .optional .unsigned)]

def signatureHelp : Schema :=
  placeQuery "SignatureHelpParams"
    [("context", .optional (.record "SignatureHelpContext"
      [("triggerKind", .signed),
       ("triggerCharacter", .optional .string),
       ("isRetrigger", .bool),
       ("activeSignatureHelp", .optional (.record "SignatureHelp"
        [("signatures", .list signature),
         ("activeSignature", .optional .unsigned),
         ("activeParameter", .optional .unsigned)]))]))]

def nameChange : Schema :=
  placeQuery "RenameParams" [("newName", .string)]

/-! ## Queries about a document -/

def selections : Schema :=
  documentQuery "SelectionRangeParams" [("positions", .list position)]

def inlineValues : Schema :=
  documentQueryAtOnce "InlineValueParams"
    [("range", range),
     ("context", .record "InlineValueContext"
      [("frameId", .signed), ("stoppedLocation", range)])]

def hints : Schema :=
  documentQueryAtOnce "InlayHintParams" [("range", range)]

def documentDiagnostics : Schema :=
  documentQuery "DocumentDiagnosticParams"
    [("identifier", .optional .string), ("previousResultId", .optional .string)]

def codeActions : Schema :=
  documentQuery "CodeActionParams"
    [("range", range),
     ("context", .record "CodeActionContext"
      [("diagnostics", .list diagnostic),
       ("only", .optional (.list .string)),
       ("triggerKind", .optional .signed)])]

def colorPresentations : Schema :=
  documentQuery "ColorPresentationParams"
    [("color", .record "Color"
      [("red", .single), ("green", .single), ("blue", .single), ("alpha", .single)]),
     ("range", range)]

/-! ## Formatting -/

def formattingOptions : Schema :=
  .extensible "FormattingOptions"
    [("tabSize", .unsigned),
     ("insertSpaces", .bool),
     ("trimTrailingWhitespace", .optional .bool),
     ("insertFinalNewline", .optional .bool),
     ("trimFinalNewlines", .optional .bool)]
    (.either "FormattingProperty" [.bool, .signed, .string])

def formatting : Schema :=
  documentQueryAtOnce "DocumentFormattingParams" [("options", formattingOptions)]

def rangeFormatting : Schema :=
  documentQueryAtOnce "DocumentRangeFormattingParams"
    [("range", range), ("options", formattingOptions)]

def typingFormatting : Schema :=
  .merged "DocumentOnTypeFormattingParams" [("ch", .string), ("options", formattingOptions)]
    [documentPosition]

/-! ## Queries about the workspace -/

def callQuery (name : String) : Schema :=
  query name [("item", callItem)]

def typeQuery (name : String) : Schema :=
  query name [("item", typeItem)]

def workspaceDiagnostics : Schema :=
  query "WorkspaceDiagnosticParams"
    [("identifier", .optional .string),
     ("previousResultIds", .list (.record "PreviousResultId"
      [("uri", .uri), ("value", .string)]))]

def symbols : Schema :=
  .merged "WorkspaceSymbolParams" [("query", .string)] [partialResult, workDone]

def execution : Schema :=
  .merged "ExecuteCommandParams"
    [("command", .string), ("arguments", .defaulted (.list .any))] [workDone]

/-- The files that an operation is about to touch. -/
def filesQuery (name : String) (file : Schema) : Schema :=
  .record name [("files", .list file)]

def creations : Schema :=
  filesQuery "CreateFilesParams" (.record "FileCreate" [("uri", .string)])

def renamings : Schema :=
  filesQuery "RenameFilesParams"
    (.record "FileRename" [("oldUri", .string), ("newUri", .string)])

def deletions : Schema :=
  filesQuery "DeleteFilesParams" (.record "FileDelete" [("uri", .string)])

def saving : Schema :=
  .record "WillSaveTextDocumentParams" [ofDocument, ("reason", .signed)]

end SetScript.Schema
