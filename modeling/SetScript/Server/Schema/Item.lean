import SetScript.Server.Schema.Document

/-!
# Schemas of items

An editor sends some of the things back that it was given, such as completions or
hints, to have more of them filled in.
-/

namespace SetScript.Schema

def codeLens : Schema :=
  .record "CodeLens" [("range", range), ("command", .optional command), ("data", .any)]

def documentLink : Schema :=
  .record "DocumentLink"
    [("range", range), ("target", .optional .uri), ("tooltip", .optional .string),
     ("data", .any)]

def hintLabel : Schema :=
  .either "InlayHintLabel"
    [.string,
     .list (.record "InlayHintLabelPart"
      [("value", .string),
       ("tooltip", .optional (explanation "InlayHintLabelPartTooltip")),
       ("location", .optional location),
       ("command", .optional command)])]

def hint : Schema :=
  .record "InlayHint"
    [("position", position),
     ("label", hintLabel),
     ("kind", .optional .signed),
     ("textEdits", .optional (.list textEdit)),
     ("tooltip", .optional (explanation "InlayHintTooltip")),
     ("paddingLeft", .optional .bool),
     ("paddingRight", .optional .bool),
     ("data", .any)]

def completion : Schema :=
  .record "CompletionItem"
    [("label", .string),
     ("labelDetails", .optional (.record "CompletionItemLabelDetails"
      [("detail", .optional .string), ("description", .optional .string)])),
     ("kind", .optional .signed),
     ("detail", .optional .string),
     ("documentation", .optional documentation),
     ("deprecated", .optional .bool),
     ("preselect", .optional .bool),
     ("sortText", .optional .string),
     ("filterText", .optional .string),
     ("insertText", .optional .string),
     ("insertTextFormat", .optional .signed),
     ("insertTextMode", .optional .signed),
     ("textEdit", .optional (.either "CompletionTextEdit" [textEdit, insertOrReplace])),
     ("additionalTextEdits", .optional (.list textEdit)),
     ("command", .optional command),
     ("commitCharacters", .optional (.list .string)),
     ("data", .any),
     ("tags", .optional (.list .signed))]

def codeAction : Schema :=
  .record "CodeAction"
    [("title", .string),
     ("kind", .optional .string),
     ("diagnostics", .optional (.list diagnostic)),
     ("edit", .optional workspaceEdit),
     ("command", .optional command),
     ("isPreferred", .optional .bool),
     ("disabled", .optional (.record "CodeActionDisabled" [("reason", .string)])),
     ("data", .any)]

def workspaceSymbol : Schema :=
  .record "WorkspaceSymbol"
    [("name", .string),
     ("kind", .signed),
     ("tags", .optional (.list .signed)),
     ("containerName", .optional .string),
     ("location", .either "OneOf" [location, .record "WorkspaceLocation" [("uri", .uri)]]),
     ("data", .any)]

/-- An item of a hierarchy, with its tags as the schema says. -/
def hierarchyItem (name : String) (tags : Schema) : Schema :=
  .record name
    [("name", .string),
     ("kind", .signed),
     ("tags", .optional tags),
     ("detail", .optional .string),
     ("uri", .uri),
     ("range", range),
     ("selectionRange", range),
     ("data", .any)]

/-- A call in a hierarchy of calls. -/
def callItem : Schema :=
  hierarchyItem "CallHierarchyItem" (.list .signed)

/-- A type in a hierarchy of types, which has one tag at most. -/
def typeItem : Schema :=
  hierarchyItem "TypeHierarchyItem" .signed

end SetScript.Schema
