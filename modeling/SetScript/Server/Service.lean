import SetScript.Server.Method
import SetScript.Server.Wire

/-!
# The service

The service takes messages in order, one at a time, and keeps to the life of a
session.  The server performs nothing before it was started, which happens once,
and nothing after it was shut down.  Requests out of turn are answered with a
failure and notifications out of turn are dropped.  After the exit nothing is
answered any more.
-/

namespace SetScript

/-- A message from the editor.  A message with an identifier is a request. -/
structure Message where
  method : String
  params? : Option Json := none
  id? : Option Json := none

/-- The message that a JSON value is, if it is one. -/
def Message.ofJson? (value : Json) : Option Message :=
  match value.field? "method" with
  | some (.string method) =>
      some { method := method, params? := value.field? "params", id? := value.field? "id" }
  | _ => none

/-- Where a session stands. -/
inductive Phase
  | unstarted
  | running
  | shutDown
  | exited
deriving DecidableEq

/-- Why a request fails. -/
inductive Failure
  | notStarted
  | invalidRequest
  /-- Unknown methods are named, known ones are not. -/
  | methodNotFound (name? : Option String)
  | invalidParams (complaint : Complaint)
deriving DecidableEq

namespace Failure

def code : Failure → Int
  | notStarted => -32002
  | invalidRequest => -32600
  | methodNotFound _ => -32601
  | invalidParams _ => -32602

def message : Failure → String
  | notStarted => "Server not initialized"
  | invalidRequest => "Invalid request"
  | methodNotFound _ => "Method not found"
  | invalidParams complaint => complaint.message

def data? : Failure → Option Json
  | methodNotFound (some name) => some (.string name)
  | _ => none

def toJson (failure : Failure) : Json :=
  .ofFields <|
    [("code", .integer failure.code), ("message", .string failure.message)] ++
      (failure.data?.map fun data => ("data", data)).toList

end Failure

/-- The answer to a request. -/
structure Response where
  id : Json
  outcome : Except Failure Result

def Response.toJson (response : Response) : Json :=
  let outcome :=
    match response.outcome with
    | .ok result => ("result", result.toJson)
    | .error failure => ("error", failure.toJson)
  .ofFields [("jsonrpc", .string "2.0"), ("id", response.id), outcome]

/-- A session with a server. -/
structure Service where
  server : Server
  phase : Phase := .unstarted

/-- What the service does about a message. -/
structure Reaction where
  service : Service
  response? : Option Response := none
  notices : List Notice := []

namespace Service

/-- Leave the session as it is and say nothing. -/
def ignore (service : Service) : Reaction :=
  { service := service }

/-- Leave the session as it is, and let a request fail. -/
def refuse (service : Service) (id? : Option Json) (failure : Failure) : Reaction :=
  { service := service, response? := id?.map fun id => ⟨id, .error failure⟩ }

/-- Let the server perform a call. -/
def perform (host : Host) (service : Service) (id? : Option Json) (call : Call) : Reaction :=
  let effect := service.server.perform host call
  { service := { service with server := effect.server }
    response? := id?.map fun id => ⟨id, .ok effect.result⟩
    notices := effect.notices }

/-- Check the parameters of a request, and go on with them if they are right. -/
def checked (service : Service) (id : Json) (expects : Expectation) (params? : Option Json)
    (proceed : Json → Reaction) : Reaction :=
  match expects.check params? with
  | .error complaint => service.refuse (some id) (.invalidParams complaint)
  | .ok params => proceed params

/-- Take a message for a known method while the server is running.  A notification
for a request is dropped, and so is one whose parameters are refused. -/
def dispatch (host : Host) (service : Service) (method : Method) (message : Message) : Reaction :=
  match method.duty, message.id? with
  | .request expects read, some id =>
      service.checked id expects message.params? fun params =>
        service.perform host (some id) (read params)
  | .unserved expects, some id =>
      service.checked id expects message.params? fun _ =>
        service.refuse (some id) (.methodNotFound none)
  | .notification expects read, none =>
      match expects.check message.params? with
      | .error _ => service.ignore
      | .ok params => service.perform host none (read params)
  | .notification _ _, some id | .ignored, some id => service.refuse (some id) .invalidRequest
  | _, _ => service.ignore

/-- Start the session, unless it was started before.  A start with parameters
that are refused does not count. -/
def start (host : Host) (service : Service) (method : Method) (message : Message) : Reaction :=
  match service.phase with
  | .unstarted =>
      match method.duty, message.id? with
      | .request expects read, some id =>
          service.checked id expects message.params? fun params =>
            let reaction := service.perform host (some id) (read params)
            { reaction with service := { reaction.service with phase := .running } }
      | _, _ => service.ignore
  | _ => service.refuse message.id? .invalidRequest

/-- Take a message for a known method other than the start. -/
def proceed (host : Host) (service : Service) (method : Method) (message : Message) : Reaction :=
  match service.phase with
  | .unstarted => service.refuse message.id? .notStarted
  | .running =>
      if method.name = Method.shutdownName then
        dispatch host { service with phase := .shutDown } method message
      else
        dispatch host service method message
  | _ => service.refuse message.id? .invalidRequest

/-- Take a message. -/
def handle (host : Host) (service : Service) (message : Message) : Reaction :=
  if service.phase = .exited then
    service.ignore
  else if message.method = Method.exitName then
    { service := { service with phase := .exited } }
  else if message.method = Method.cancelName then
    service.refuse message.id? .invalidRequest
  else
    match Method.find? message.method with
    | some method =>
        if method.name = Method.startName then
          start host service method message
        else
          proceed host service method message
    | none =>
        if "$/".toList.isPrefixOf message.method.toList then
          service.ignore
        else
          service.refuse message.id? (.methodNotFound (some message.method))

/-- The paths at which a message may make the service look for settings. -/
def settingsPaths (host : Host) (service : Service) (message : Message) : List String :=
  if message.method = Method.startName then
    match service.server.explicitFile? with
    | some path => [path]
    | none =>
        let options := Params.readOptions (message.params?.getD .null)
        Config.candidates host (Server.workspaceOf options)
  else
    []

end Service

/-- The messages that a reaction sends: the response, then the notices. -/
def Reaction.frames (reaction : Reaction) : List Json :=
  (reaction.response?.map Response.toJson).toList ++ reaction.notices.map Notice.toJson

end SetScript
