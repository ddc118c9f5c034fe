import SetScript.Config.Error

/-!
# Finding settings

A file that is named explicitly must be there.  Otherwise the file in the
workspace is taken, or else the file of the user, and without any file the
defaults apply.  Of the files that are found the first one counts, even when it
is refused.
-/

namespace SetScript.Config

/-- Settings from a file. -/
def load (host : Host) (path : String) : Except Error Config :=
  match host.readText path with
  | .error failure => .error (.unreadable path failure)
  | .ok text => (decodeToml text).mapError (.invalid (some path))

/-- The settings file of the user. -/
def userFile? (host : Host) : Option String :=
  host.settingsDirectory?.map fun directory =>
    Host.join (Host.join directory "setlang") "config.toml"

/-- The places where settings are looked for when no file is named. -/
def candidates (host : Host) (workspace? : Option String) : List String :=
  (workspace?.map fun workspace => Host.join workspace fileName).toList ++
    (userFile? host).toList

/-- The settings for a workspace. -/
def discover (host : Host) (explicit? workspace? : Option String) : Except Error Config :=
  match explicit? with
  | some path => load host path
  | none =>
      match (candidates host workspace?).find? host.isFile with
      | some path => load host path
      | none => .ok {}

end SetScript.Config
