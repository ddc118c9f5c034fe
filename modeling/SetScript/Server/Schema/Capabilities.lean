import SetScript.Server.Schema.Document

/-!
# Schemas of what an editor can do

An editor tells at the start what it can do: with the workspace, with documents,
with its windows, and in general.
-/

namespace SetScript.Schema

/-! ## Parts that occur again and again -/

/-- Whether a capability can be announced later. -/
def dynamic : String × Schema :=
  ("dynamicRegistration", .optional .bool)

/-- A capability of which nothing more is known. -/
def plainCapability : Schema :=
  .record "DynamicRegistrationClientCapabilities" [dynamic]

/-- A capability to ask for a new result. -/
def refreshable (name : String) : Schema :=
  .record name (flags ["refreshSupport"])

/-- The properties that can be filled in later. -/
def resolvable (name : String) : Schema :=
  .record name [("properties", .list .string)]

def symbolKinds : Schema :=
  .record "SymbolKindCapability" [("valueSet", .optional (.list .signed))]

/-- The tags that are known, where early editors only say whether there are any. -/
def tagSupport : Schema :=
  .defaulted (.optional (.switchable (.record "TagSupport" [("valueSet", .list .signed)])))

/-! ## Workspace -/

def workspaceEditCapability : Schema :=
  .record "WorkspaceEditClientCapabilities"
    [("documentChanges", .optional .bool),
     ("resourceOperations", .optional (.list (.choice ["create", "rename", "delete"]))),
     ("failureHandling", .optional
      (.choice ["abort", "transactional", "textOnlyTransactional", "undo"])),
     ("normalizesLineEndings", .optional .bool),
     ("changeAnnotationSupport", .optional
      (.record "ChangeAnnotationWorkspaceEditClientCapabilities" (flags ["groupsOnLabel"])))]

def workspaceSymbolCapability : Schema :=
  .record "WorkspaceSymbolClientCapabilities"
    [dynamic,
     ("symbolKind", .optional symbolKinds),
     ("tagSupport", tagSupport),
     ("resolveSupport", .optional (resolvable "WorkspaceSymbolResolveSupportCapability"))]

def workspaceCapabilities : Schema :=
  .record "WorkspaceClientCapabilities"
    [("applyEdit", .optional .bool),
     ("workspaceEdit", .optional workspaceEditCapability),
     ("didChangeConfiguration", .optional plainCapability),
     ("didChangeWatchedFiles", .optional
      (.record "DidChangeWatchedFilesClientCapabilities"
        (flags ["dynamicRegistration", "relativePatternSupport"]))),
     ("symbol", .optional workspaceSymbolCapability),
     ("executeCommand", .optional plainCapability),
     ("workspaceFolders", .optional .bool),
     ("configuration", .optional .bool),
     ("semanticTokens", .optional (refreshable "SemanticTokensWorkspaceClientCapabilities")),
     ("codeLens", .optional (refreshable "CodeLensWorkspaceClientCapabilities")),
     ("fileOperations", .optional
      (.record "WorkspaceFileOperationsClientCapabilities"
        (flags ["dynamicRegistration", "didCreate", "willCreate", "didRename", "willRename",
          "didDelete", "willDelete"]))),
     ("inlineValue", .optional (refreshable "InlineValueWorkspaceClientCapabilities")),
     ("inlayHint", .optional (refreshable "InlayHintWorkspaceClientCapabilities")),
     ("diagnostic", .optional (refreshable "DiagnosticWorkspaceClientCapabilities"))]

/-! ## Documents -/

def completionItemCapability : Schema :=
  .record "CompletionItemCapability"
    [("snippetSupport", .optional .bool),
     ("commitCharactersSupport", .optional .bool),
     ("documentationFormat", .optional (.list markupKind)),
     ("deprecatedSupport", .optional .bool),
     ("preselectSupport", .optional .bool),
     ("tagSupport", tagSupport),
     ("insertReplaceSupport", .optional .bool),
     ("resolveSupport", .optional (resolvable "CompletionItemCapabilityResolveSupport")),
     ("insertTextModeSupport", .optional
      (.record "InsertTextModeSupport" [("valueSet", .list .signed)])),
     ("labelDetailsSupport", .optional .bool)]

def completionCapability : Schema :=
  .record "CompletionClientCapabilities"
    [dynamic,
     ("completionItem", .optional completionItemCapability),
     ("completionItemKind", .optional
      (.record "CompletionItemKindCapability" [("valueSet", .optional (.list .signed))])),
     ("contextSupport", .optional .bool),
     ("insertTextMode", .optional .signed),
     ("completionList", .optional
      (.record "CompletionListCapability" [("itemDefaults", .optional (.list .string))]))]

def signatureHelpCapability : Schema :=
  .record "SignatureHelpClientCapabilities"
    [dynamic,
     ("signatureInformation", .optional
      (.record "SignatureInformationSettings"
        [("documentationFormat", .optional (.list markupKind)),
         ("parameterInformation", .optional
          (.record "ParameterInformationSettings" (flags ["labelOffsetSupport"]))),
         ("activeParameterSupport", .optional .bool)])),
     ("contextSupport", .optional .bool)]

def documentSymbolCapability : Schema :=
  .record "DocumentSymbolClientCapabilities"
    [dynamic,
     ("symbolKind", .optional symbolKinds),
     ("hierarchicalDocumentSymbolSupport", .optional .bool),
     ("tagSupport", tagSupport)]

/-- The capability to go to another place. -/
def linkCapability : Schema :=
  .record "GotoCapability" (flags ["dynamicRegistration", "linkSupport"])

def codeActionCapability : Schema :=
  .record "CodeActionClientCapabilities"
    [dynamic,
     ("codeActionLiteralSupport", .optional
      (.record "CodeActionLiteralSupport"
        [("codeActionKind",
          .record "CodeActionKindLiteralSupport" [("valueSet", .list .string)])])),
     ("isPreferredSupport", .optional .bool),
     ("disabledSupport", .optional .bool),
     ("dataSupport", .optional .bool),
     ("resolveSupport", .optional (resolvable "CodeActionCapabilityResolveSupport")),
     ("honorsChangeAnnotations", .optional .bool)]

def renameCapability : Schema :=
  .record "RenameClientCapabilities"
    [dynamic,
     ("prepareSupport", .optional .bool),
     ("prepareSupportDefaultBehavior", .optional .signed),
     ("honorsChangeAnnotations", .optional .bool)]

def publicationCapability : Schema :=
  .record "PublishDiagnosticsClientCapabilities"
    [("relatedInformation", .optional .bool),
     ("tagSupport", tagSupport),
     ("versionSupport", .optional .bool),
     ("codeDescriptionSupport", .optional .bool),
     ("dataSupport", .optional .bool)]

def foldingCapability : Schema :=
  .record "FoldingRangeClientCapabilities"
    [dynamic,
     ("rangeLimit", .optional .unsigned),
     ("lineFoldingOnly", .optional .bool),
     ("foldingRangeKind", .optional
      (.record "FoldingRangeKindCapability"
        [("valueSet", .optional (.list (.choice ["comment", "imports", "region"])))])),
     ("foldingRange", .optional
      (.record "FoldingRangeCapability" (flags ["collapsedText"])))]

def semanticTokensCapability : Schema :=
  .record "SemanticTokensClientCapabilities"
    [dynamic,
     ("requests", .record "SemanticTokensClientCapabilitiesRequests"
      [("range", .optional .bool),
       ("full", .optional (.either "SemanticTokensFullOptions"
        [.bool, .merged "SemanticTokensFullOptions" (flags ["delta"]) []]))]),
     ("tokenTypes", .list .string),
     ("tokenModifiers", .list .string),
     ("formats", .list .string),
     ("overlappingTokenSupport", .optional .bool),
     ("multilineTokenSupport", .optional .bool),
     ("serverCancelSupport", .optional .bool),
     ("augmentsSyntaxTokens", .optional .bool)]

def documentCapabilities : Schema :=
  .record "TextDocumentClientCapabilities"
    [("synchronization", .optional
      (.record "TextDocumentSyncClientCapabilities"
        (flags ["dynamicRegistration", "willSave", "willSaveWaitUntil", "didSave"]))),
     ("completion", .optional completionCapability),
     ("hover", .optional
      (.record "HoverClientCapabilities"
        [dynamic, ("contentFormat", .optional (.list markupKind))])),
     ("signatureHelp", .optional signatureHelpCapability),
     ("references", .optional plainCapability),
     ("documentHighlight", .optional plainCapability),
     ("documentSymbol", .optional documentSymbolCapability),
     ("formatting", .optional plainCapability),
     ("rangeFormatting", .optional plainCapability),
     ("onTypeFormatting", .optional plainCapability),
     ("declaration", .optional linkCapability),
     ("definition", .optional linkCapability),
     ("typeDefinition", .optional linkCapability),
     ("implementation", .optional linkCapability),
     ("codeAction", .optional codeActionCapability),
     ("codeLens", .optional plainCapability),
     ("documentLink", .optional
      (.record "DocumentLinkClientCapabilities" (flags ["dynamicRegistration", "tooltipSupport"]))),
     ("colorProvider", .optional plainCapability),
     ("rename", .optional renameCapability),
     ("publishDiagnostics", .optional publicationCapability),
     ("foldingRange", .optional foldingCapability),
     ("selectionRange", .optional (.record "SelectionRangeClientCapabilities" [dynamic])),
     ("linkedEditingRange", .optional plainCapability),
     ("callHierarchy", .optional plainCapability),
     ("semanticTokens", .optional semanticTokensCapability),
     ("moniker", .optional plainCapability),
     ("typeHierarchy", .optional plainCapability),
     ("inlineValue", .optional plainCapability),
     ("inlayHint", .optional
      (.record "InlayHintClientCapabilities"
        [dynamic,
         ("resolveSupport", .optional (resolvable "InlayHintResolveClientCapabilities"))])),
     ("diagnostic", .optional
      (.record "DiagnosticClientCapabilities"
        (flags ["dynamicRegistration", "relatedDocumentSupport"])))]

/-! ## Windows and the rest -/

def windowCapabilities : Schema :=
  .record "WindowClientCapabilities"
    [("workDoneProgress", .optional .bool),
     ("showMessage", .optional
      (.record "ShowMessageRequestClientCapabilities"
        [("messageActionItem", .optional
          (.record "MessageActionItemCapabilities" (flags ["additionalPropertiesSupport"])))])),
     ("showDocument", .optional
      (.record "ShowDocumentClientCapabilities" [("support", .bool)]))]

def generalCapabilities : Schema :=
  .record "GeneralClientCapabilities"
    [("regularExpressions", .optional
      (.record "RegularExpressionsClientCapabilities"
        [("engine", .string), ("version", .optional .string)])),
     ("markdown", .optional
      (.record "MarkdownClientCapabilities"
        [("parser", .string), ("version", .optional .string),
         ("allowedTags", .optional (.list .string))])),
     ("staleRequestSupport", .optional
      (.record "StaleRequestSupportClientCapabilities"
        [("cancel", .bool), ("retryOnContentModified", .list .string)])),
     ("positionEncodings", .optional (.list .string))]

/-- All that an editor can do. -/
def capabilities : Schema :=
  .record "ClientCapabilities"
    [("workspace", .optional workspaceCapabilities),
     ("textDocument", .optional documentCapabilities),
     ("window", .optional windowCapabilities),
     ("general", .optional generalCapabilities),
     ("offsetEncoding", .optional (.list .string)),
     ("experimental", .any)]

end SetScript.Schema
