import SetScript.Server.Basic
import SetScript.Server.Schema.Capabilities
import SetScript.Server.Schema.Query

/-!
# Parameters of calls

The schemas of what the server performs, and the calls that checked parameters
stand for.
-/

namespace SetScript

open Text

namespace Schema

def workspaceFolder : Schema :=
  .record "WorkspaceFolder" [("uri", .uri), ("name", .string)]

def start : Schema :=
  .record "InitializeParams"
    [("processId", .optional .unsigned),
     ("rootPath", .optional .string),
     ("rootUri", .defaulted (.optional .uri)),
     ("initializationOptions", .any),
     ("capabilities", capabilities),
     ("trace", .defaulted (.optional (.choice ["off", "messages", "verbose"]))),
     ("workspaceFolders", .optional (.list workspaceFolder)),
     ("clientInfo", .optional (.record "ClientInfo"
      [("name", .string), ("version", .optional .string)])),
     ("locale", .optional .string)]

def started : Schema :=
  .record "InitializedParams" []

def opened : Schema :=
  .record "DidOpenTextDocumentParams" [("textDocument", documentItem)]

def changed : Schema :=
  .record "DidChangeTextDocumentParams"
    [("textDocument", versionedIdentifier), ("contentChanges", .list change)]

def closed : Schema :=
  .record "DidCloseTextDocumentParams" [("textDocument", documentIdentifier)]

end Schema

namespace Params

/-! ## Reading checked parameters

Parameters are read after they were checked, so a default stands only where a
field may be missing. -/

/-- The value of a field of a record, given as an object or as an array. -/
def part? (schema : Schema) (name : String) (value : Json) : Option Json :=
  match schema, value with
  | _, .object members => members.lookup name
  | .record _ fields, .array items =>
      (fields.findIdx? (·.1 == name)).bind fun index => items[index]?
  | _, _ => none

def text (value? : Option Json) : String :=
  match value? with
  | some (.string text) => text
  | _ => ""

def text? (value? : Option Json) : Option String :=
  match value? with
  | some (.string text) => some text
  | _ => none

def word (value? : Option Json) : UInt32 :=
  match value? with
  | some (.integer n) => UInt32.ofNat n.toNat
  | _ => 0

def items (value? : Option Json) : List Json :=
  match value? with
  | some (.array items) => items
  | _ => []

/-- The identifier of the document that parameters are about, in its normal form. -/
def documentUri (params document : Schema) (value : Json) : String :=
  Uri.normalize (text ((part? params "textDocument" value).bind (part? document "uri")))

def readOptions (value : Json) : StartOptions :=
  { folders := (items (part? .start "workspaceFolders" value)).map fun folder =>
      text (part? .workspaceFolder "uri" folder)
    rootUri? := text? (part? .start "rootUri" value)
    settings? := part? .start "initializationOptions" value }

def readStart (value : Json) : Call :=
  .start (readOptions value)

def readOpened (value : Json) : Call :=
  .opened (documentUri .opened .documentItem value)
    (text ((part? .opened "textDocument" value).bind (part? .documentItem "text")))

def readChanged (value : Json) : Call :=
  .changed (documentUri .changed .versionedIdentifier value)
    ((items (part? .changed "contentChanges" value)).map fun entry =>
      text (part? .change "text" entry))

def readClosed (value : Json) : Call :=
  .closed (documentUri .closed .documentIdentifier value)

def readDefinition (value : Json) : Call :=
  let place? := part? .definition "position" value
  let coordinate (name : String) : UInt32 := word (place?.bind (part? .position name))
  .definition (documentUri .definition .documentIdentifier value)
    ⟨coordinate "line", coordinate "character"⟩

end Params

end SetScript
