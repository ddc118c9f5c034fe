import SetScript.CommandLine.Report
import SetScript.Json.Reader
import SetScript.Json.Writer
import SetScript.Server.Service

/-!
# The program

Messages come in on standard input and go out on standard output, each after a
header that gives its length in bytes.  Reading and writing is all that happens
here; what a message does is decided by `Service.handle`.
-/

open SetScript

namespace SetScript.Main

/-- The length that a header line announces. -/
def announcedLength? (line : String) : Option Nat :=
  match line.splitOn ":" with
  | [name, value] =>
      if name.trimAscii.toString.toLower = "content-length" then value.trimAscii.toString.toNat?
      else none
  | _ => none

/-- Read header lines up to the empty one; nothing at the end of the input. -/
partial def readHeader (input : IO.FS.Stream) (length? : Option Nat) : IO (Option Nat) := do
  let line ← input.getLine
  if line.isEmpty then
    return none
  else if line.trimAscii.isEmpty then
    return length?
  else
    readHeader input ((announcedLength? line).or length?)

/-- Read a given number of bytes, or as many as there are. -/
partial def readBytes (input : IO.FS.Stream) (count : Nat) (before : ByteArray) : IO ByteArray := do
  if count ≤ before.size then
    return before
  else
    let more ← input.read (USize.ofNat (count - before.size))
    if more.isEmpty then
      return before
    else
      readBytes input count (before ++ more)

/-- Send a message. -/
def send (output : IO.FS.Stream) (message : Json) : IO Unit := do
  let text := message.render
  output.putStr ("Content-Length: " ++ toString text.utf8ByteSize ++ "\r\n\r\n" ++ text)
  output.flush

/-- What is found at a path. -/
def lookUp (path : String) : IO Entry := do
  try
    return .file (← IO.FS.readBinFile path)
  catch
    | .inappropriateType _ code _ =>
        return if code = 21 || code = -21 then .directory else .notDirectory
    | _ => return .missing

/-- The host as far as some variables and paths are concerned. -/
def observe (names paths : List String) : IO Host := do
  let environment ← names.filterMapM fun name =>
    return (← IO.getEnv name).map fun value => (name, value)
  let entries ← paths.mapM fun path => return (path, ← lookUp path)
  return {
    variableValue := fun name => environment.lookup name
    entry := fun path => (entries.lookup path).getD .missing }

/-- The environment variables that matter. -/
def variableNames : List String :=
  ["XDG_CONFIG_HOME", "HOME"]

/-- The answer to something that is not a message. -/
def unreadable : Json :=
  .ofFields
    [("jsonrpc", .string "2.0"),
     ("error", .ofFields [("code", .integer (-32700)), ("message", .string "Parse error")]),
     ("id", .null)]

/-- Take messages until the input or the session ends. -/
partial def serve (input output : IO.FS.Stream) (service : Service) : IO Unit := do
  match ← readHeader input none with
  | none => return ()
  | some length =>
      let bytes ← readBytes input length .empty
      match ((String.fromUTF8? bytes).bind Json.parse?).bind Message.ofJson? with
      | none =>
          send output unreadable
          serve input output service
      | some message =>
          let surroundings ← observe variableNames []
          let host ← observe variableNames (service.settingsPaths surroundings message)
          let reaction := service.handle host message
          reaction.frames.forM (send output)
          unless reaction.service.phase = .exited do
            serve input output reaction.service

end SetScript.Main

def main (arguments : List String) : IO UInt32 := do
  match CommandLine.parse arguments with
  | .serve configFile? =>
      let service : Service := { server := { explicitFile? := configFile? } }
      SetScript.Main.serve (← IO.getStdin) (← IO.getStdout) service
      return 0
  | outcome =>
      let ending := outcome.ending
      (← IO.getStdout).putStr ending.output
      (← IO.getStderr).putStr ending.complaint
      return UInt32.ofNat ending.code
