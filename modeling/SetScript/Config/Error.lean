import SetScript.Config.Formats
import SetScript.Host.Basic

/-!
# Refused settings

Settings are refused because their file cannot be read, or because they cannot be
decoded.
-/

namespace SetScript.Config

/-- Why settings are refused. -/
inductive Error
  | unreadable (path : String) (failure : ReadFailure)
  /-- The path is missing when the settings do not come from a file. -/
  | invalid (path? : Option String) (reason : String)
deriving DecidableEq

namespace Error

def message : Error → String
  | unreadable path failure => "failed to read " ++ path ++ ": " ++ failure.message
  | invalid none reason => "invalid configuration: " ++ reason
  | invalid (some path) reason => "invalid configuration in " ++ path ++ ": " ++ reason

/-- The file that the settings come from. -/
def path? : Error → Option String
  | unreadable path _ => some path
  | invalid path? _ => path?

end Error

/-- Settings given as a JSON value. -/
def ofJson (value : Json) : Except Error Config :=
  (decodeJson value).mapError (.invalid none)

/-- Settings given as a TOML text. -/
def ofToml (text : String) : Except Error Config :=
  (decodeToml text).mapError (.invalid none)

end SetScript.Config
