import SetScript.Config.Discover
import SetScript.Definition
import SetScript.Diagnostic
import SetScript.Uri.Basic
import Std.Data.HashMap

/-!
# The server

The server holds the syntax tree of every open document, the settings in effect
and the workspace directory.  A `Call` changes it, has a result, and makes it
send notices to the editor.

Every change of a document replaces its tree as a whole, so a query sees one
version of the document and never a mixture.
-/

namespace SetScript

open Text

/-- The state of the server. -/
structure Server where
  documents : Std.HashMap String SyntaxTree := ∅
  workspace? : Option String := none
  config : Config := {}
  /-- The settings file named on the command line. -/
  explicitFile? : Option String := none

/-- What the editor tells about itself at the start. -/
structure StartOptions where
  /-- The identifiers of the workspace folders, the first one first. -/
  folders : List String := []
  rootUri? : Option String := none
  settings? : Option Json := none

/-- What the editor asks for or tells about. -/
inductive Call
  | start (options : StartOptions)
  | started
  | opened (uri : String) (text : String)
  /-- The texts of the changes; the last one is the whole document. -/
  | changed (uri : String) (texts : List String)
  | closed (uri : String)
  | definition (uri : String) (position : Position)
  | shutdown

/-- What a call gives back. -/
inductive Result
  | nothing
  | started
  | definition (found? : Option Definition)
deriving DecidableEq

/-- How important a logged message is. -/
inductive LogLevel
  | warning
  | info
deriving DecidableEq

/-- What the server sends to the editor on its own account. -/
inductive Notice
  | log (level : LogLevel) (message : String)
  | publish (uri : String) (diagnostics : List Diagnostic)
deriving DecidableEq

/-- The effect of a call. -/
structure Effect where
  server : Server
  result : Result := .nothing
  notices : List Notice := []

namespace Server

/-- The name by which the server introduces itself. -/
def name : String :=
  "SetLang"

/-- The version by which the server introduces itself. -/
def version : String :=
  "0.1.0"

/-- The current tree of an open document. -/
def tree? (server : Server) (uri : String) : Option SyntaxTree :=
  server.documents[uri]?

/-- The diagnostics of a document under the settings in effect; none for a
document that is not open. -/
def diagnosticsOf (server : Server) (uri : String) : List Diagnostic :=
  match server.tree? uri with
  | some tree => Diagnostic.collect tree server.config.diagnostics
  | none => []

/-- The definition of the variable under a caret in an open document. -/
def definitionAt? (server : Server) (uri : String) (position : Position) : Option Definition :=
  (server.tree? uri).bind fun tree => Definition.find? tree uri position

/-- The directory that an identifier names on this host. -/
def directoryOf? (uri : String) : Option String :=
  match Uri.parse uri with
  | .ok uri => uri.filePath?
  | .error _ => none

/-- The workspace directory: that of the first folder, or else of the root. -/
def workspaceOf (options : StartOptions) : Option String :=
  (options.folders.head?.or options.rootUri?).bind directoryOf?

/-- The settings given by the editor, if any.  Null stands for none. -/
def givenSettings? (options : StartOptions) : Option Json :=
  options.settings?.filter fun
    | .null => false
    | _ => true

/-- Choose the settings: those given by the editor if they can be decoded, and
otherwise those of the files. -/
def chooseConfig (host : Host) (explicit? workspace? : Option String) (given? : Option Json) :
    List Notice × Except Config.Error Config :=
  let discovered := Config.discover host explicit? workspace?
  match given? with
  | none => ([], discovered)
  | some value =>
      match Config.ofJson value with
      | .ok config => ([], .ok config)
      | .error problem =>
          ([.log .warning ("SetLang: " ++ problem.message ++ "; ignoring initializationOptions")],
            discovered)

/-- Take over the workspace and the settings.  Settings that are refused leave
those in effect as they are. -/
def start (host : Host) (server : Server) (options : StartOptions) : Effect :=
  let workspace? := workspaceOf options
  let chosen := chooseConfig host server.explicitFile? workspace? (givenSettings? options)
  let located := { server with workspace? := workspace? }
  match chosen.2 with
  | .ok config =>
      { server := { located with config := config }, result := .started, notices := chosen.1 }
  | .error problem =>
      { server := located
        result := .started
        notices :=
          chosen.1 ++ [.log .warning ("SetLang: " ++ problem.message ++ "; using defaults")] }

/-- Take over a new tree of a document. -/
def store (server : Server) (uri : String) (tree : SyntaxTree) : Server :=
  { server with documents := server.documents.insert uri tree }

/-- Forget a document. -/
def forget (server : Server) (uri : String) : Server :=
  { server with documents := server.documents.erase uri }

/-- The notice with the diagnostics of a tree under the settings in effect. -/
def publication (server : Server) (uri : String) (tree : SyntaxTree) : Notice :=
  .publish uri (Diagnostic.collect tree server.config.diagnostics)

/-- Perform a call. -/
def perform (host : Host) (server : Server) : Call → Effect
  | .start options => start host server options
  | .started => { server := server, notices := [.log .info (name ++ " initialized!")] }
  | .opened uri text =>
      let tree := SyntaxTree.parse text
      { server := server.store uri tree
        notices := [server.publication uri tree, .log .info ("Opened file: " ++ uri)] }
  | .changed uri texts =>
      match texts.getLast? with
      | none => { server := server }
      | some text =>
          let tree := SyntaxTree.parse text
          { server := server.store uri tree, notices := [server.publication uri tree] }
  | .closed uri =>
      { server := server.forget uri
        notices := [.publish uri [], .log .info ("Closed file: " ++ uri)] }
  | .definition uri position =>
      { server := server, result := .definition (server.definitionAt? uri position) }
  | .shutdown => { server := server }

end Server

end SetScript
