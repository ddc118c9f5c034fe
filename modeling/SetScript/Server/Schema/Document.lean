import SetScript.Server.Schema

/-!
# Schemas of documents and what is in them

Positions, ranges, documents, edits of their text, and the texts that explain a
part of them.
-/

namespace SetScript.Schema

/-- A number or a text by which a message or a task is known. -/
def token : Schema :=
  .either "NumberOrString" [.signed, .string]

/-- Fields with truth values that may be missing. -/
def flags (names : List String) : List (String × Schema) :=
  names.map fun name => (name, .optional .bool)

/-! ## Places -/

def position : Schema :=
  .record "Position" [("line", .unsigned), ("character", .unsigned)]

def range : Schema :=
  .record "Range" [("start", position), ("end", position)]

def location : Schema :=
  .record "Location" [("uri", .uri), ("range", range)]

/-! ## Documents -/

def documentIdentifier : Schema :=
  .record "TextDocumentIdentifier" [("uri", .uri)]

def versionedIdentifier : Schema :=
  .record "VersionedTextDocumentIdentifier" [("uri", .uri), ("version", .signed)]

def documentItem : Schema :=
  .record "TextDocumentItem"
    [("uri", .uri), ("languageId", .string), ("version", .signed), ("text", .string)]

def change : Schema :=
  .record "TextDocumentContentChangeEvent"
    [("range", .optional range), ("rangeLength", .optional .unsigned), ("text", .string)]

/-- A place in a document. -/
def documentPosition : Schema :=
  .record "TextDocumentPositionParams"
    [("textDocument", documentIdentifier), ("position", position)]

/-! ## Explanations -/

def markupKind : Schema :=
  .choice ["plaintext", "markdown"]

def markup : Schema :=
  .record "MarkupContent" [("kind", markupKind), ("value", .string)]

/-- A text that is plain or marked up; `name` is that of the choice between them. -/
def explanation (name : String) : Schema :=
  .either name [.string, markup]

def documentation : Schema :=
  explanation "Documentation"

/-! ## Commands and edits -/

def command : Schema :=
  .record "Command"
    [("title", .string), ("command", .string), ("arguments", .optional (.list .any))]

def textEdit : Schema :=
  .record "TextEdit" [("range", range), ("newText", .string)]

/-- An edit that inserts or replaces, as the editor prefers. -/
def insertOrReplace : Schema :=
  .record "InsertReplaceEdit" [("newText", .string), ("insert", range), ("replace", range)]

/-- The edits of one document. -/
def documentEdit : Schema :=
  .record "TextDocumentEdit"
    [("textDocument", .record "OptionalVersionedTextDocumentIdentifier"
      [("uri", .uri), ("version", .optional .signed)]),
     ("edits", .list (.either "OneOf" [textEdit]))]

/-- An operation on a file, with the label of its kind before its own fields. -/
def fileOperation (name kind : String) (place : Nat) (own : List (String × Schema)) : Schema :=
  .record name (("kind", .label kind place) :: own)

def fileCreation : Schema :=
  fileOperation "CreateFile" "create" 0
    [("uri", .uri),
     ("options", .optional (.record "CreateFileOptions" (flags ["overwrite", "ignoreIfExists"]))),
     ("annotationId", .optional .string)]

def fileRenaming : Schema :=
  fileOperation "RenameFile" "rename" 1
    [("oldUri", .uri), ("newUri", .uri),
     ("options", .optional (.record "RenameFileOptions" (flags ["overwrite", "ignoreIfExists"]))),
     ("annotationId", .optional .string)]

/-- The deletion of a file; its remarks stand among the options. -/
def fileDeletion : Schema :=
  fileOperation "DeleteFile" "delete" 2
    [("uri", .uri),
     ("options", .optional (.record "DeleteFileOptions"
      (flags ["recursive", "ignoreIfNotExists"] ++ [("annotationId", .optional .string)])))]

def changeAnnotation : Schema :=
  .record "ChangeAnnotation"
    [("label", .string), ("needsConfirmation", .optional .bool),
     ("description", .optional .string)]

/-- Edits all over the workspace. -/
def workspaceEdit : Schema :=
  .record "WorkspaceEdit"
    [("changes", .defaulted (.optional (.dictionary "map" .uri (.list textEdit)))),
     ("documentChanges", .optional (.either "DocumentChanges"
      [.list documentEdit,
       .list (.either "DocumentChangeOperation"
        [fileCreation, fileRenaming, fileDeletion, documentEdit])])),
     ("changeAnnotations", .optional (.dictionary "a map" .string changeAnnotation))]

/-! ## Diagnostics -/

def diagnostic : Schema :=
  .record "Diagnostic"
    [("range", range),
     ("severity", .optional .signed),
     ("code", .optional token),
     ("codeDescription", .optional (.record "CodeDescription" [("href", .uri)])),
     ("source", .optional .string),
     ("message", .string),
     ("relatedInformation", .optional (.list (.record "DiagnosticRelatedInformation"
      [("location", location), ("message", .string)]))),
     ("tags", .optional (.list .signed)),
     ("data", .any)]

end SetScript.Schema
