import SetScript.Proofs.Server.Session
import SetScript.Server.Service

/-!
# The life of a session

Whatever messages the service takes, the server performs calls in a certain order only: it
is started once and before all else, and performs nothing after it was shut down.  The
settings are then fixed before the first document is opened, and what was published last of
a document is what its diagnostics are now.
-/

namespace SetScript

/-- A call neither starts the server nor shuts it down. -/
def Call.Ordinary : Call → Prop
  | start _ | shutdown => False
  | _ => True

theorem Call.Ordinary.not_isStart {call : Call} (ordinary : call.Ordinary) : ¬ call.IsStart := by
  rintro ⟨options, rfl⟩
  exact ordinary

/-! ## What methods stand for -/

namespace Method

/-- The calls that a method stands for. -/
inductive Makes (method : Method) : Call → Prop
  | request {expects : Expectation} {read : Json → Call}
      (duty : method.duty = .request expects read) (params : Json) : Makes method (read params)
  | notification {expects : Expectation} {read : Json → Call}
      (duty : method.duty = .notification expects read) (params : Json) :
      Makes method (read params)

variable {method : Method} {call : Call}

theorem not_makes_of_mem_unserved {methods : List (String × Schema)}
    (member : method ∈ unserved methods) : ¬ method.Makes call := by
  rcases List.mem_map.mp member with ⟨entry, -, rfl⟩
  rintro (⟨duty⟩ | ⟨duty⟩) <;> cases duty

theorem not_makes_of_mem_ignored (member : method ∈ ignored) : ¬ method.Makes call := by
  rcases List.mem_map.mp member with ⟨name, -, rfl⟩
  rintro (⟨duty⟩ | ⟨duty⟩) <;> cases duty

theorem mem_performed_of_makes (known : method ∈ all) (makes : method.Makes call) :
    method ∈ performed := by
  simp only [all, List.mem_append] at known
  rcases known with ((((member | place) | document) | item) | workspace) | ignored
  · exact member
  · exact absurd makes (not_makes_of_mem_unserved place)
  · exact absurd makes (not_makes_of_mem_unserved document)
  · exact absurd makes (not_makes_of_mem_unserved item)
  · exact absurd makes (not_makes_of_mem_unserved workspace)
  · exact absurd makes (not_makes_of_mem_ignored ignored)

/-- The methods for starting and for shutting down stand for just that, and no other method
does. -/
theorem makes_cases (known : method ∈ all) (makes : method.Makes call) :
    (method.name = startName ∧ call.IsStart) ∨
      (method.name = shutdownName ∧ call = .shutdown) ∨
        (method.name ≠ startName ∧ method.name ≠ shutdownName ∧ call.Ordinary) := by
  have member := mem_performed_of_makes known makes
  simp only [performed, List.mem_cons, List.not_mem_nil, or_false] at member
  rcases member with rfl | rfl | rfl | rfl | rfl | rfl | rfl <;>
    rcases makes with ⟨duty, params⟩ | ⟨duty, params⟩ <;> cases duty
  · exact .inl ⟨rfl, _, rfl⟩
  iterate 5 exact .inr (.inr ⟨by decide, by decide, trivial⟩)
  · exact .inr (.inl ⟨rfl, rfl⟩)

end Method

/-! ## What the service does about a message -/

/-- How a session goes from one phase to another, and what the server performs meanwhile. -/
inductive Phase.Step : Phase → List (Host × Call) → Phase → Prop
  /-- The server is left alone. -/
  | stay {phase : Phase} : Step phase [] phase
  | start {host : Host} {options : StartOptions} :
      Step .unstarted [(host, .start options)] .running
  | perform {host : Host} {call : Call} (ordinary : call.Ordinary) :
      Step .running [(host, call)] .running
  | shutdown {host : Host} : Step .running [(host, .shutdown)] .shutDown
  /-- A shutdown that is refused ends the session all the same. -/
  | refused : Step .running [] .shutDown
  | exit {phase : Phase} : Step phase [] .exited

namespace Service

/-- A message for a known method leaves the session as it is, or lets the server perform a
call that the method stands for. -/
theorem dispatch_cases (host : Host) (service : Service) (method : Method) (message : Message) :
    (∃ response?, dispatch host service method message =
        { service := service, response? := response? }) ∨
      ∃ id? call, method.Makes call ∧
        dispatch host service method message = service.perform host id? call := by
  rw [dispatch]
  cases duty : method.duty with
  | request expects read =>
      cases message.id? with
      | none => exact .inl ⟨_, rfl⟩
      | some id =>
          simp only [checked]
          cases expects.check message.params? with
          | error complaint => exact .inl ⟨_, rfl⟩
          | ok params => exact .inr ⟨_, _, .request duty params, rfl⟩
  | unserved expects =>
      cases message.id? with
      | none => exact .inl ⟨_, rfl⟩
      | some id =>
          simp only [checked]
          cases expects.check message.params? <;> exact .inl ⟨_, rfl⟩
  | notification expects read =>
      cases message.id? with
      | none =>
          simp only
          cases expects.check message.params? with
          | error complaint => exact .inl ⟨_, rfl⟩
          | ok params => exact .inr ⟨_, _, .notification duty params, rfl⟩
      | some id => exact .inl ⟨_, rfl⟩
  | ignored => cases message.id? <;> exact .inl ⟨_, rfl⟩

/-- A start before the session has started leaves it as it is, or lets the server perform a
call that the method stands for. -/
theorem start_cases (host : Host) (server : Server) (method : Method) (message : Message) :
    (∃ response?, start host ⟨server, .unstarted⟩ method message =
        { service := ⟨server, .unstarted⟩, response? := response? }) ∨
      ∃ response? call, method.Makes call ∧ start host ⟨server, .unstarted⟩ method message =
        { service := ⟨(server.perform host call).server, .running⟩
          response? := response?
          notices := (server.perform host call).notices } := by
  rw [start]
  cases duty : method.duty with
  | request expects read =>
      cases message.id? with
      | none => exact .inl ⟨_, rfl⟩
      | some id =>
          simp only [checked]
          cases expects.check message.params? with
          | error complaint => exact .inl ⟨_, rfl⟩
          | ok params => exact .inr ⟨_, _, .request duty params, rfl⟩
  | notification | unserved | ignored => exact .inl ⟨_, rfl⟩

/-- A reaction of the service takes a step from phase to phase, and lets the server perform
what belongs to it. -/
def Takes (service : Service) (events : List (Host × Call)) (reaction : Reaction) : Prop :=
  service.phase.Step events reaction.service.phase ∧
    reaction.service.server = service.server.after events ∧
      reaction.notices = service.server.sent events

theorem takes_stay (service : Service) (response? : Option Response) :
    service.Takes [] { service := service, response? := response? } :=
  ⟨.stay, rfl, rfl⟩

theorem start_takes (host : Host) (service : Service) {method : Method}
    (known : method ∈ Method.all) (isStart : method.name = Method.startName) (message : Message) :
    ∃ events, service.Takes events (start host service method message) := by
  rcases service with ⟨server, phase⟩
  cases phase with
  | unstarted =>
      rcases start_cases host server method message with
        ⟨response?, same⟩ | ⟨response?, call, makes, same⟩
      · rw [same]
        exact ⟨[], takes_stay _ _⟩
      · rw [same]
        rcases Method.makes_cases known makes with ⟨-, options, rfl⟩ | ⟨other, -⟩ | ⟨other, -⟩
        · exact ⟨[(host, .start options)], .start, rfl, (List.append_nil _).symm⟩
        · exact absurd (isStart.symm.trans other) (by decide)
        · exact absurd isStart other
  | running | shutDown | exited => exact ⟨[], takes_stay _ _⟩

theorem proceed_takes (host : Host) (service : Service) {method : Method}
    (known : method ∈ Method.all) (notStart : method.name ≠ Method.startName)
    (message : Message) : ∃ events, service.Takes events (proceed host service method message) := by
  rcases service with ⟨server, phase⟩
  cases phase with
  | running =>
      rw [proceed]
      by_cases isShutdown : method.name = Method.shutdownName
      · rw [if_pos isShutdown]
        rcases dispatch_cases host ⟨server, .shutDown⟩ method message with
          ⟨response?, same⟩ | ⟨id?, call, makes, same⟩
        · rw [same]
          exact ⟨[], .refused, rfl, rfl⟩
        · rw [same]
          rcases Method.makes_cases known makes with ⟨isStart, -⟩ | ⟨-, rfl⟩ | ⟨-, other, -⟩
          · exact absurd isStart notStart
          · exact ⟨[(host, .shutdown)], .shutdown, rfl, (List.append_nil _).symm⟩
          · exact absurd isShutdown other
      · rw [if_neg isShutdown]
        rcases dispatch_cases host ⟨server, .running⟩ method message with
          ⟨response?, same⟩ | ⟨id?, call, makes, same⟩
        · rw [same]
          exact ⟨[], takes_stay _ _⟩
        · rw [same]
          rcases Method.makes_cases known makes with ⟨isStart, -⟩ | ⟨other, -⟩ | ⟨-, -, ordinary⟩
          · exact absurd isStart notStart
          · exact absurd other isShutdown
          · exact ⟨[(host, call)], .perform ordinary, rfl, (List.append_nil _).symm⟩
  | unstarted | shutDown | exited => exact ⟨[], takes_stay _ _⟩

/-- Whatever the message, the service takes a step. -/
theorem handle_takes (host : Host) (service : Service) (message : Message) :
    ∃ events, service.Takes events (handle host service message) := by
  rw [handle]
  by_cases exited : service.phase = .exited
  · rw [if_pos exited]
    exact ⟨[], takes_stay _ _⟩
  rw [if_neg exited]
  by_cases isExit : message.method = Method.exitName
  · rw [if_pos isExit]
    exact ⟨[], .exit, rfl, rfl⟩
  rw [if_neg isExit]
  by_cases isCancel : message.method = Method.cancelName
  · rw [if_pos isCancel]
    exact ⟨[], takes_stay _ _⟩
  rw [if_neg isCancel]
  cases found : Method.find? message.method with
  | none =>
      simp only
      split <;> exact ⟨[], takes_stay _ _⟩
  | some method =>
      have known : method ∈ Method.all := List.mem_of_find?_eq_some found
      simp only
      by_cases isStart : method.name = Method.startName
      · rw [if_pos isStart]
        exact start_takes host service known isStart message
      · rw [if_neg isStart]
        exact proceed_takes host service known isStart message

end Service

/-! ## Whole lives -/

/-- The sessions that lead to a phase. -/
inductive Phase.Life : Phase → List (Host × Call) → Prop
  | fresh : Life .unstarted []
  | step {phase next : Phase} {session events : List (Host × Call)} (life : Life phase session)
      (step : phase.Step events next) : Life next (session ++ events)

namespace Phase.Life

variable {phase : Phase} {session : List (Host × Call)} {server : Server} {uri : String}

theorem eq_nil (life : Life .unstarted session) : session = [] := by
  generalize equal : Phase.unstarted = phase at life
  induction life with
  | fresh => rfl
  | step life step ih =>
      subst equal
      cases step with
      | stay => rw [ih rfl, List.append_nil]

/-- What was published last of a document is what its diagnostics are. -/
theorem lastPublished_eq (life : phase.Life session) (unknown : server.tree? uri = none) :
    lastPublished uri (server.sent session) = (server.after session).diagnosticsOf uri := by
  induction life with
  | fresh =>
      rw [Server.after, Server.diagnosticsOf, unknown]
      rfl
  | step life step ih =>
      rw [Server.sent_append, Server.after_append]
      cases step with
      | stay | refused | exit => simpa [Server.sent, Server.after] using ih
      | start =>
          -- There is no document yet, so the new settings change nothing.
          rw [life.eq_nil]
          simp [Server.sent, Server.after, Server.perform, lastPublished, Server.published_start,
            Server.diagnosticsOf, Server.tree?_start, unknown]
      | perform ordinary =>
          simpa [Server.sent, Server.after] using
            Server.lastPublished_perform ordinary.not_isStart _ ih
      | shutdown =>
          simpa [Server.sent, Server.after] using
            Server.lastPublished_perform (by rintro ⟨options, same⟩; cases same) _ ih

end Phase.Life

namespace Service

/-- The session after some messages. -/
def after (service : Service) : List (Host × Message) → Service
  | [] => service
  | (host, message) :: messages => (service.handle host message).service.after messages

/-- The notices that are sent on account of some messages. -/
def sent (service : Service) : List (Host × Message) → List Notice
  | [] => []
  | (host, message) :: messages =>
      (service.handle host message).notices ++ (service.handle host message).service.sent messages

/-- Whatever the messages, the server performs calls in order. -/
theorem exists_life {service : Service} {session : List (Host × Call)}
    (life : service.phase.Life session) (messages : List (Host × Message)) :
    ∃ later, (service.after messages).phase.Life (session ++ later) ∧
      (service.after messages).server = service.server.after later ∧
        service.sent messages = service.server.sent later := by
  induction messages generalizing service session with
  | nil => exact ⟨[], by rwa [List.append_nil], rfl, rfl⟩
  | cons entry messages ih =>
      rcases entry with ⟨host, message⟩
      rcases handle_takes host service message with ⟨events, step, server, notices⟩
      rcases ih (life.step step) with ⟨later, laterLife, laterServer, laterNotices⟩
      refine ⟨events ++ later, ?_, ?_, ?_⟩
      · rw [← List.append_assoc]
        exact laterLife
      · rw [Server.after_append, ← server]
        exact laterServer
      · rw [Server.sent_append, ← server, ← notices, ← laterNotices]
        rfl

/-- Behind the service, what was published last of a document is at all times what its
diagnostics are. -/
theorem lastPublished_sent {service : Service} {uri : String} (unstarted : service.phase = .unstarted)
    (unknown : service.server.tree? uri = none) (messages : List (Host × Message)) :
    lastPublished uri (service.sent messages) =
      (service.after messages).server.diagnosticsOf uri := by
  have unborn : service.phase.Life [] := unstarted ▸ .fresh
  rcases exists_life unborn messages with ⟨session, life, sameServer, sameNotices⟩
  rw [sameServer, sameNotices]
  exact life.lastPublished_eq unknown

end Service

namespace Server

/-- Of every document the server has the tree of the last text that it was given, and answers
by it.  A call that revises a document publishes its diagnostics once, no other call does so,
and calls about other documents make no difference.  In the life of a session, what was
published last of a document is at all times what its diagnostics are. -/
theorem follows_revisions (configFile? : Option String) (uri : String) :
    let server : Server := { explicitFile? := configFile? }
    (∀ session : List (Host × Call),
      let current := server.after session
      current.tree? uri = (lastText? uri session).map SyntaxTree.parse ∧
        (∀ host position, (current.perform host (.definition uri position)).result =
          .definition ((lastText? uri session).bind fun text =>
            Definition.find? (SyntaxTree.parse text) uri position)) ∧
        (∀ host call,
          (current.perform host call).notices.filterMap (Notice.published? uri) =
            (call.revision? uri).toList.map fun _ =>
              (current.perform host call).server.diagnosticsOf uri) ∧
        (server.after (concerning uri session)).tree? uri = current.tree? uri ∧
        (server.after (concerning uri session)).diagnosticsOf uri =
          current.diagnosticsOf uri ∧
        (server.sent (concerning uri session)).filterMap (Notice.published? uri) =
          (server.sent session).filterMap (Notice.published? uri)) ∧
    ∀ phase session, Phase.Life phase session →
      lastPublished uri (server.sent session) = (server.after session).diagnosticsOf uri := by
  intro server
  have unknown : server.tree? uri = none := Std.HashMap.getElem?_empty
  constructor
  · intro session current
    have tree := tree?_after_of_unknown unknown session
    rcases agreeOn_after_concerning (.refl uri server) session with ⟨agree, published⟩
    refine ⟨tree, ?_, ?_, agree.tree?.symm, agree.diagnosticsOf.symm, published.symm⟩
    · intro host position
      rw [perform, definitionAt?, tree, Option.bind_map]
      rfl
    · intro host call
      exact published_perform host current call uri
  · intro phase session life
    exact life.lastPublished_eq unknown

/-- The life of a session in which a document is opened that lacks the binding of a variable. -/
theorem follows_revisions_unbound :
    let host : Host := ⟨fun _ => none, fun _ => .missing⟩
    let uri := "file:///a.setl"
    let session : List (Host × Call) :=
      [(host, .start {}), (host, .opened uri "get(\"x\")"), (host, .shutdown)]
    Phase.Life .shutDown session ∧
      lastPublished uri (sent {} session) = (after {} session).diagnosticsOf uri ∧
        (lastPublished uri (sent {} session)).map (·.problem) = [.unresolved "\"x\""] := by
  intro host uri session
  have opened : Phase.Step .running [(host, .opened uri "get(\"x\")")] .running :=
    .perform trivial
  have life : Phase.Life .shutDown session :=
    ((Phase.Life.fresh.step .start).step opened).step .shutdown
  refine ⟨life, (follows_revisions none uri).2 .shutDown session life, ?_⟩
  decide +kernel

end Server

end SetScript
