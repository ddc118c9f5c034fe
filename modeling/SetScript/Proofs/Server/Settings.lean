import SetScript.Proofs.Server.Session

/-!
# The source of the settings

At every start the settings are sought at one source: the options of the editor if they can
be decoded, or else the file named on the command line, the file of the workspace, the file
of the user, or the defaults.  Options that cannot be decoded are passed over, and so is a
place without a file.  A file that is refused is not passed over: the settings in effect
stay.

After a session the settings are those of the last start whose source could be loaded.
-/

namespace SetScript

/-! ## Sources and their order -/

/-- Where settings come from. -/
inductive Config.Source
  /-- The options that the editor gives at the start. -/
  | options (value : Json)
  /-- The file named on the command line. -/
  | named (path : String)
  /-- A file at one of the usual places. -/
  | found (path : String)
  | defaults

namespace Config.Source

/-- Whether a source is turned to.  Options have to be decoded; of a file it only counts that
it is named, or is there, and not what it holds. -/
def isOffered (host : Host) : Source → Bool
  | options .null => false
  | options value => (ofJson value).isOk
  | found path => host.isFile path
  | named _ | defaults => true

/-- The settings of a source.  A file has to be read as a text, and the text decoded. -/
def load (host : Host) : Source → Except Config.Error Config
  | options value => ofJson value
  | named path | found path =>
      match host.readText path with
      | .error failure => .error (.unreadable path failure)
      | .ok text => (decodeToml text).mapError (.invalid (some path))
  | defaults => .ok {}

/-- The first source of a list that is turned to. -/
def first (host : Host) (sources : List Source) : Source :=
  (sources.find? (isOffered host)).getD defaults

end Config.Source

namespace Server

open Config (Source)

/-- The place of the settings file of the workspace, which is the directory of the first
folder, or of the root if no folders are given. -/
def workspacePlace? (options : StartOptions) : Option String :=
  let directory? :=
    match options.folders with
    | folder :: _ => directoryOf? folder
    | [] => options.rootUri?.bind directoryOf?
  directory?.map fun directory => Host.join directory ".setlang.toml"

/-- The place of the settings file of the user. -/
def userPlace? (host : Host) : Option String :=
  host.settingsDirectory?.map fun directory =>
    Host.join (Host.join directory "setlang") "config.toml"

/-- The sources without the editor, in their order. -/
def fileSources (host : Host) (explicit? : Option String) (options : StartOptions) : List Source :=
  explicit?.toList.map .named ++ (workspacePlace? options).toList.map .found ++
    (userPlace? host).toList.map .found ++ [.defaults]

/-- The sources of the settings at a start, in their order. -/
def sources (host : Host) (explicit? : Option String) (options : StartOptions) : List Source :=
  options.settings?.toList.map Source.options ++
    fileSources host explicit? options

/-- A file that is named and cannot be read leaves the settings of an earlier start. -/
example :
    let host : Host := ⟨fun _ => none, fun _ => .directory⟩
    let disabled : Json := .object [("diagnostics", .array [.bool false])]
    (Server.after { explicitFile? := some "settings" }
      [(host, .start { settings? := some disabled }), (host, .start {})]).config.diagnostics =
        ⟨false, true, true⟩ := by
  rfl

end Server

end SetScript
