import SetScript.Server.Basic

/-!
# Sessions with a server

A session is a list of calls, each with the host as it is at that time.  Of a document the
server remembers no more than the text that came last, and it forgets a closed one.

A call revises a document when it brings a new text or closes it.  Such a call publishes
the diagnostics of the document once, other calls do not publish them, and calls about
other documents make no difference to it.
-/

namespace SetScript

open Text

/-! ## What calls and notices say about a document -/

namespace Call

/-- What a call makes of a document, if it revises it: the new text, or none for a document
that is closed. -/
def revision? (uri : String) : Call → Option (Option String)
  | opened other text => if other = uri then some (some text) else none
  | changed other texts => if other = uri then texts.getLast?.map some else none
  | closed other => if other = uri then some none else none
  | _ => none

/-- The document that a call is about, if any. -/
def uri? : Call → Option String
  | opened uri _ | changed uri _ | closed uri | definition uri _ => some uri
  | _ => none

/-- A call is about a document or about none. -/
def concerns (uri : String) (call : Call) : Bool :=
  call.uri?.all (· = uri)

/-- A call starts the server. -/
def IsStart (call : Call) : Prop :=
  ∃ options, call = start options

end Call

/-- What the calls of a session make of a document, one after another. -/
def revisions (uri : String) (session : List (Host × Call)) : List (Option String) :=
  (session.map Prod.snd).filterMap (Call.revision? uri)

theorem revisions_cons (uri : String) (event : Host × Call) (session : List (Host × Call)) :
    revisions uri (event :: session) =
      (event.2.revision? uri).toList ++ revisions uri session := by
  rw [revisions, List.map_cons, List.filterMap_cons]
  cases event.2.revision? uri <;> rfl

/-- The text of a document after a session: what the last call that revised it made of it. -/
def lastText? (uri : String) (session : List (Host × Call)) : Option String :=
  (revisions uri session).getLast?.getD none

/-- The part of a session that concerns a document. -/
def concerning (uri : String) (session : List (Host × Call)) : List (Host × Call) :=
  session.filter fun event => event.2.concerns uri

namespace Notice

/-- The diagnostics that a notice publishes of a document, if it does. -/
def published? (uri : String) : Notice → Option (List Diagnostic)
  | publish other diagnostics => if other = uri then some diagnostics else none
  | log _ _ => none

end Notice

/-- The diagnostics of a document that were published last, none at first. -/
def lastPublished (uri : String) (notices : List Notice) : List Diagnostic :=
  (notices.filterMap (Notice.published? uri)).getLast?.getD []

namespace Server

variable {uri : String} {server other : Server} {call : Call}

/-! ## One call -/

@[simp]
theorem tree?_store (server : Server) (uri other : String) (tree : SyntaxTree) :
    (server.store other tree).tree? uri = if other = uri then some tree else server.tree? uri := by
  simp [tree?, store, Std.HashMap.getElem?_insert]

@[simp]
theorem tree?_forget (server : Server) (uri other : String) :
    (server.forget other).tree? uri = if other = uri then none else server.tree? uri := by
  simp [tree?, forget, Std.HashMap.getElem?_erase]

/-- The diagnostics of a document are those of the tree that was stored for it. -/
@[simp]
theorem diagnosticsOf_store (server : Server) (uri : String) (tree : SyntaxTree) :
    (server.store uri tree).diagnosticsOf uri =
      Diagnostic.collect tree server.config.diagnostics := by
  simp only [diagnosticsOf, tree?_store, if_true]
  rfl

@[simp]
theorem diagnosticsOf_forget (server : Server) (uri : String) :
    (server.forget uri).diagnosticsOf uri = [] := by
  simp [diagnosticsOf]

/-- Starting changes the workspace and the settings, and nothing else. -/
theorem server_start (host : Host) (server : Server) (options : StartOptions) :
    (start host server options).server =
      { server with
        workspace? := workspaceOf options
        config := (chooseConfig host server.explicitFile? (workspaceOf options)
          (givenSettings? options)).2.toOption.getD server.config } := by
  rw [start]
  cases (chooseConfig host server.explicitFile? (workspaceOf options) (givenSettings? options)).2 <;>
    rfl

theorem tree?_start (host : Host) (server : Server) (options : StartOptions) (uri : String) :
    (start host server options).server.tree? uri = server.tree? uri := by
  rw [server_start]
  rfl

theorem published_chooseConfig (host : Host) (explicit? workspace? : Option String)
    (given? : Option Json) (uri : String) :
    (chooseConfig host explicit? workspace? given?).1.filterMap (Notice.published? uri) = [] := by
  cases given? with
  | none => rfl
  | some settings =>
      simp only [chooseConfig]
      cases Config.ofJson settings <;> rfl

/-- Starting publishes nothing. -/
theorem published_start (host : Host) (server : Server) (options : StartOptions) (uri : String) :
    (start host server options).notices.filterMap (Notice.published? uri) = [] := by
  have chosen := published_chooseConfig host server.explicitFile? (workspaceOf options)
    (givenSettings? options) uri
  rw [start]
  cases (chooseConfig host server.explicitFile? (workspaceOf options) (givenSettings? options)).2 with
  | ok config => exact chosen
  | error problem =>
      rw [List.filterMap_append, chosen]
      rfl

/-- After a call the tree of a document is that of its new text, if the call revised it. -/
theorem tree?_perform (host : Host) (server : Server) (call : Call) (uri : String) :
    (server.perform host call).server.tree? uri =
      ((call.revision? uri).map (Option.map SyntaxTree.parse)).getD (server.tree? uri) := by
  cases call with
  | start options => exact tree?_start host server options uri
  | started | definition | shutdown => rfl
  | opened other text => by_cases same : other = uri <;> simp [perform, Call.revision?, same]
  | changed other texts =>
      cases last : texts.getLast? with
      | none => simp [perform, Call.revision?, last]
      | some text => by_cases same : other = uri <;> simp [perform, Call.revision?, last, same]
  | closed other => by_cases same : other = uri <;> simp [perform, Call.revision?, same]

/-- Only starting changes the settings. -/
theorem config_perform (notStart : ¬ call.IsStart) (host : Host) (server : Server) :
    (server.perform host call).server.config = server.config := by
  cases call with
  | start options => exact absurd ⟨options, rfl⟩ notStart
  | started | definition | shutdown | opened | closed => rfl
  | changed other texts =>
      rw [perform]
      cases texts.getLast? <;> rfl

theorem explicitFile?_perform (host : Host) (server : Server) (call : Call) :
    (server.perform host call).server.explicitFile? = server.explicitFile? := by
  cases call with
  | start options => rw [perform, server_start]
  | started | definition | shutdown | opened | closed => rfl
  | changed other texts =>
      rw [perform]
      cases texts.getLast? <;> rfl

/-- A call that revises a document publishes its diagnostics once, and no other call
publishes them. -/
theorem published_perform (host : Host) (server : Server) (call : Call) (uri : String) :
    (server.perform host call).notices.filterMap (Notice.published? uri) =
      (call.revision? uri).toList.map fun _ =>
        (server.perform host call).server.diagnosticsOf uri := by
  cases call with
  | start options => exact published_start host server options uri
  | started | definition | shutdown => rfl
  | opened other text =>
      by_cases same : other = uri <;>
        simp [perform, publication, Call.revision?, Notice.published?, same]
  | changed other texts =>
      cases last : texts.getLast? with
      | none => simp [perform, Call.revision?, last]
      | some text =>
          by_cases same : other = uri <;>
            simp [perform, publication, Call.revision?, Notice.published?, last, same]
  | closed other =>
      by_cases same : other = uri <;>
        simp [perform, Call.revision?, Notice.published?, same]

/-- If the diagnostics that were published last are those of the document, this is still so
after a call that does not start the server. -/
theorem lastPublished_perform {notices : List Notice} (notStart : ¬ call.IsStart) (host : Host)
    (current : lastPublished uri notices = server.diagnosticsOf uri) :
    lastPublished uri (notices ++ (server.perform host call).notices) =
      (server.perform host call).server.diagnosticsOf uri := by
  rw [lastPublished, List.filterMap_append, published_perform]
  cases revised : call.revision? uri with
  | none =>
      have sameTree : (server.perform host call).server.tree? uri = server.tree? uri := by
        rw [tree?_perform, revised]
        rfl
      rw [diagnosticsOf, sameTree, config_perform notStart, ← diagnosticsOf, ← current]
      simp [lastPublished]
  | some revision => simp

/-! ## Whole sessions -/

/-- The server after a session. -/
def after (server : Server) : List (Host × Call) → Server
  | [] => server
  | (host, call) :: session => (server.perform host call).server.after session

/-- What the server sends during a session. -/
def sent (server : Server) : List (Host × Call) → List Notice
  | [] => []
  | (host, call) :: session =>
      (server.perform host call).notices ++ (server.perform host call).server.sent session

theorem after_append (server : Server) (session later : List (Host × Call)) :
    server.after (session ++ later) = (server.after session).after later := by
  induction session generalizing server with
  | nil => rfl
  | cons event session ih => exact ih _

theorem sent_append (server : Server) (session later : List (Host × Call)) :
    server.sent (session ++ later) = server.sent session ++ (server.after session).sent later := by
  induction session generalizing server with
  | nil => rfl
  | cons event session ih =>
      rw [List.cons_append, sent, sent, ih, List.append_assoc]
      rfl

/-- The tree of a document is that of its last text, or the one from before the session when
no call revised it. -/
theorem tree?_after (server : Server) (session : List (Host × Call)) (uri : String) :
    (server.after session).tree? uri =
      ((revisions uri session).getLast?.map (Option.map SyntaxTree.parse)).getD
        (server.tree? uri) := by
  induction session generalizing server with
  | nil => rfl
  | cons event session ih =>
      rw [after, ih, tree?_perform, revisions_cons]
      cases event.2.revision? uri with
      | none => rfl
      | some revision =>
          rw [Option.toList_some, List.singleton_append, List.getLast?_cons, Option.map_some,
            Option.map_some, Option.getD_some, Option.getD_some, Option.getD_map]

/-- Of a document that was unknown before the session, the tree is that of its last text. -/
theorem tree?_after_of_unknown (unknown : server.tree? uri = none)
    (session : List (Host × Call)) :
    (server.after session).tree? uri = (lastText? uri session).map SyntaxTree.parse := by
  rw [tree?_after, unknown, lastText?]
  cases (revisions uri session).getLast? <;> rfl

/-! ## Calls about other documents -/

/-- Two servers have the same settings, now and after a start, and the same tree of a
document. -/
structure AgreeOn (uri : String) (server other : Server) : Prop where
  tree? : server.tree? uri = other.tree? uri
  config : server.config = other.config
  explicitFile? : server.explicitFile? = other.explicitFile?

namespace AgreeOn

theorem refl (uri : String) (server : Server) : AgreeOn uri server server :=
  ⟨rfl, rfl, rfl⟩

theorem diagnosticsOf (agree : AgreeOn uri server other) :
    server.diagnosticsOf uri = other.diagnosticsOf uri := by
  rw [Server.diagnosticsOf, Server.diagnosticsOf, agree.tree?, agree.config]

/-- Servers that agree still do so after the same call. -/
theorem perform (agree : AgreeOn uri server other) (host : Host) (call : Call) :
    AgreeOn uri (server.perform host call).server (other.perform host call).server where
  tree? := by rw [tree?_perform, tree?_perform, agree.tree?]
  config := by
    by_cases isStart : call.IsStart
    · rcases isStart with ⟨options, rfl⟩
      simp only [Server.perform, server_start, agree.explicitFile?, agree.config]
    · rw [config_perform isStart, config_perform isStart, agree.config]
  explicitFile? := by
    rw [explicitFile?_perform, explicitFile?_perform, agree.explicitFile?]

end AgreeOn

theorem revision?_eq_none_of_not_concerns (other : call.concerns uri = false) :
    call.revision? uri = none := by
  cases call <;> simp_all [Call.concerns, Call.uri?, Call.revision?]

/-- A call about another document keeps what a server has of this one. -/
theorem agreeOn_perform (elsewhere : call.concerns uri = false) (host : Host) (server : Server) :
    AgreeOn uri (server.perform host call).server server where
  tree? := by
    rw [tree?_perform, revision?_eq_none_of_not_concerns elsewhere]
    rfl
  config := by
    apply config_perform
    rintro ⟨options, rfl⟩
    cases elsewhere
  explicitFile? := explicitFile?_perform host server call

/-- Without the calls about other documents a session leads to the same, and publishes the
same, as far as one document is concerned. -/
theorem agreeOn_after_concerning (agree : AgreeOn uri server other)
    (session : List (Host × Call)) :
    AgreeOn uri (server.after session) (other.after (concerning uri session)) ∧
      (server.sent session).filterMap (Notice.published? uri) =
        (other.sent (concerning uri session)).filterMap (Notice.published? uri) := by
  induction session generalizing server other with
  | nil => exact ⟨agree, rfl⟩
  | cons event session ih =>
      rcases event with ⟨host, call⟩
      by_cases here : call.concerns uri = true
      · have agreeNext := agree.perform host call
        rcases ih agreeNext with ⟨agreeLast, published⟩
        rw [concerning, List.filter_cons, if_pos here, ← concerning]
        constructor
        · exact agreeLast
        · rw [sent, sent, List.filterMap_append, List.filterMap_append, published,
            published_perform, published_perform, agreeNext.diagnosticsOf]
      · rw [Bool.not_eq_true] at here
        have kept := agreeOn_perform here host server
        rcases ih ⟨kept.tree?.trans agree.tree?, kept.config.trans agree.config,
          kept.explicitFile?.trans agree.explicitFile?⟩ with ⟨agreeLast, published⟩
        rw [concerning, List.filter_cons, here, if_neg Bool.false_ne_true, ← concerning]
        constructor
        · exact agreeLast
        · rw [sent, List.filterMap_append, published_perform,
            revision?_eq_none_of_not_concerns here, published]
          rfl

end Server

end SetScript
