/-!
# The host

What the server sees of the machine it runs on: environment variables, and what
is found at a path.  Files are named by paths with slashes; a path that starts
with a slash is absolute.
-/

namespace SetScript

/-- What is found at a path. -/
inductive Entry
  | missing
  /-- Some part of the path that should be a directory is not. -/
  | notDirectory
  | directory
  | file (content : ByteArray)

/-- The machine that the server runs on. -/
structure Host where
  variableValue : String → Option String
  entry : String → Entry

/-- Why a file cannot be read as text. -/
inductive ReadFailure
  | missing
  | notDirectory
  | isDirectory
  | notText
deriving DecidableEq

namespace ReadFailure

def message : ReadFailure → String
  | missing => "No such file or directory (os error 2)"
  | notDirectory => "Not a directory (os error 20)"
  | isDirectory => "Is a directory (os error 21)"
  | notText => "stream did not contain valid UTF-8"

end ReadFailure

namespace Host

/-- Whether a path is absolute. -/
def isAbsolute (path : String) : Bool :=
  path.toList.head? == some '/'

/-- A path below another.  An absolute path stands for itself. -/
def join (base path : String) : String :=
  if isAbsolute path || base.isEmpty then path
  else if base.toList.getLast? == some '/' then base ++ path
  else base ++ "/" ++ path

/-- Whether a file is found at a path. -/
def isFile (host : Host) (path : String) : Bool :=
  match host.entry path with
  | .file _ => true
  | _ => false

/-- The text of the file at a path. -/
def readText (host : Host) (path : String) : Except ReadFailure String :=
  match host.entry path with
  | .missing => .error .missing
  | .notDirectory => .error .notDirectory
  | .directory => .error .isDirectory
  | .file content =>
      match String.fromUTF8? content with
      | some text => .ok text
      | none => .error .notText

/-- The directory for the settings of programs: a variable names it, unless it is
unset or relative; then it is below the home directory. -/
def settingsDirectory? (host : Host) : Option String :=
  ((host.variableValue "XDG_CONFIG_HOME").filter isAbsolute).or
    ((host.variableValue "HOME").map fun home => join home ".config/")

end Host

end SetScript
