import MarkupLint.Engine.External
import MarkupLint.Server.Method
/-!
# The protocol of the server

A host talks to the server in requests, which are answered, and notifications, which are not. Only
an initialized server does its work; a server that was shut down still finishes the checks that
are pending, and a server that has exited is silent.
-/

namespace MarkupLint.Server

/-- How far the host has come with the server. -/
inductive Phase where
  | uninitialized
  | initialized
  | shutDown
  | exited
deriving DecidableEq, Repr

/-- A message of the host; one without an id is a notification. -/
structure Request where
  id : Option Json
  method : String
  params : Option Json
deriving DecidableEq, Repr

/-- Why a request is refused. -/
inductive Refusal where
  | notInitialized
  | invalidRequest
  | methodNotFound
  | invalidParams
  | unreadable
deriving DecidableEq, Repr

/-- The number of a refusal on the wire. -/
def Refusal.code : Refusal → Int
  | .notInitialized => -32002
  | .invalidRequest => -32600
  | .methodNotFound => -32601
  | .invalidParams => -32602
  | .unreadable => -32700

/-- How a message is answered. -/
inductive Response where
  | silence
  | result (id value : Json)
  | refused (id : Json) (refusal : Refusal)
  | gone
deriving DecidableEq, Repr

/-- What the server sends of its own accord. -/
inductive Outgoing where
  | publish (publication : Publication)
  | log (text : String)
  | watchFiles
deriving DecidableEq, Repr

namespace Outgoing

/-- The method of a message to the host. -/
def method : Outgoing → String
  | .publish _ => "textDocument/publishDiagnostics"
  | .log _ => "window/logMessage"
  | .watchFiles => "client/registerCapability"

/-- The registration of the watch over the configuration files. -/
def registration : Json :=
  let watchers := RcFile.all.map fun file =>
    Json.ofMembers [("globPattern", .string ("**/" ++ file.fileName))]
  .ofMembers [
    ("id", .string "markuphint-config-watcher"),
    ("method", .string "workspace/didChangeWatchedFiles"),
    ("registerOptions", .ofMembers [("watchers", .array watchers)])]

/-- The number of the level of a log message. -/
def informationLevel : Nat := 3

/-- The parameters of a message to the host. -/
def params : Outgoing → Json
  | .publish publication => publication.toJson
  | .log text => .ofMembers [("type", .ofNat informationLevel), ("message", .string text)]
  | .watchFiles => .ofMembers [("registrations", .array [registration])]

end Outgoing

end Server

/-- The server: its session, and how far the host has come with it. -/
structure Server where
  phase : Server.Phase
  session : Server.Session

namespace Server

/-- What one message or one span of time leads to. -/
structure Turn where
  server : Server
  response : Response
  sent : List Outgoing
  notices : List Notice

/-- A server that no host has initialized. -/
def start (service : LintService) (workspace : Workspace) : Server :=
  ⟨.uninitialized, .start workspace service⟩

/-- A turn in which nothing is sent. -/
def quiet (server : Server) (response : Response) : Turn := ⟨server, response, [], []⟩

/-- The refusal of a message, if it asks for an answer. -/
def refuse (server : Server) (request : Request) (refusal : Refusal) : Turn :=
  match request.id with
  | none => server.quiet .silence
  | some id => server.quiet (.refused id refusal)

/-- The refusal of a message that only an initialized server takes. -/
def refuseByPhase (server : Server) (request : Request) : Turn :=
  server.refuse request
    (if server.phase = .uninitialized then .notInitialized else .invalidRequest)

/-- What the server tells the host about itself. -/
def selfDescription : Json :=
  .ofMembers [
    ("capabilities", .ofMembers [
      ("textDocumentSync", .ofMembers [
        ("openClose", .bool true), ("change", .ofNat 1),
        ("save", .ofMembers [("includeText", .bool true)])])]),
    ("serverInfo", .ofMembers [
      ("name", .string "markuphint-lsp"), ("version", .string "0.1.0")])]

/-- Take over the options of the host; options that do not decode are ignored altogether. -/
def applyOptions [Process.Runner] (session : Session) (options : Json) :
    Session × List Notice :=
  match StartOptions.decode options with
  | .error error => (session, [.optionsIgnored error])
  | .ok options =>
      let (session, changed) := match options.preferences with
        | some preferences => session.applySettings preferences
        | none => (session, [])
      let notices := changed.map Notice.preferencesChanged
      match options.engine with
      | none => (session, notices)
      | some config =>
          ({ session with service := session.service.withEngines (.shared config.engine) },
            notices ++ [.engineChosen config.program])

/-- Open the project of the host. -/
def applyRoot (session : Session) (root : Option Uri) : Session × List Notice :=
  match root.bind Uri.path? with
  | none => (session, [])
  | some path =>
      ({ session with workspace := session.workspace.setRoot (some path) }, [.projectRoot path])

/-- Start the session that the host asks for. -/
def accept [Process.Runner] (session : Session) (invitation : Invitation) :
    Session × List Notice :=
  let (session, rootNotices) := applyRoot session invitation.root
  let (session, optionNotices) := match invitation.options with
    | some options => applyOptions session options
    | none => (session, [])
  (session, .serverInitializing :: rootNotices ++ optionNotices)

/-- Take the request to initialize, which can succeed once. -/
def takeInvitation [Process.Runner] (server : Server) (request : Request) : Turn :=
  if server.phase != .uninitialized then
    { server.refuse request .invalidRequest with notices := [.initializedTwice] }
  else match request.id with
    | none => server.quiet .silence
    | some id =>
        match request.params.map Invitation.decode with
        | some (.ok invitation) =>
            let (session, notices) := accept server.session invitation
            ⟨⟨.initialized, session⟩, .result id selfDescription, [], notices⟩
        | _ => server.refuse request .invalidParams

/-- Take the request to shut down, which has no parameters. -/
def shutDown (server : Server) (request : Request) : Turn :=
  if server.phase != .initialized then server.refuseByPhase request
  else
    let server := { server with phase := .shutDown }
    match request.id, request.params with
    | none, _ => { server.quiet .silence with notices := [.shutdownRequested] }
    | some id, none =>
        { server.quiet (.result id .null) with
          notices := [.shutdownRequested, .serverShuttingDown] }
    | some _, some _ =>
        { server.refuse request .invalidParams with notices := [.shutdownRequested] }

/-- Take a notification that only an initialized server heeds. -/
def heed (server : Server) (request : Request) (action : Json → Turn) : Turn :=
  if server.phase != .initialized then server.refuseByPhase request
  else if request.id.isSome then server.refuse request .invalidRequest
  else match request.params with
    | none => server.quiet .silence
    | some params => action params

/-- Take an event of the session. -/
def takeEvent (server : Server) (world : World) (event : Event) : Turn :=
  let (session, report) := server.session.step world event
  ⟨{ server with session }, .silence, report.publications.map Outgoing.publish, report.notices⟩

/-- Take a message. -/
def receive [Process.Runner] (server : Server) (world : World) (request : Request) : Turn :=
  if server.phase = .exited then server.quiet .gone
  else match Method.ofName? request.method with
    | none =>
        if "$/".isPrefixOf request.method then server.quiet .silence
        else server.refuse request .methodNotFound
    | some .invite => server.takeInvitation request
    | some .shutdown => server.shutDown request
    | some .exit =>
        { (Server.mk .exited server.session).quiet .silence with notices := [.exitRequested] }
    | some .cancel => server.refuse request .invalidRequest
    | some .initialized =>
        server.heed request fun params =>
          match decodeEmpty params with
          | .error _ => server.quiet .silence
          | .ok _ =>
              ⟨server, .silence, [.log "markuphint LSP server initialized!", .watchFiles], []⟩
    | some (.event decode) =>
        server.heed request fun params =>
          match decode params with
          | .error _ => server.quiet .silence
          | .ok event => server.takeEvent world event
    | some .otherNotification => server.heed request fun _ => server.quiet .silence
    | some (.otherRequest parts) =>
        if server.phase != .initialized then server.refuseByPhase request
        else match request.params.map (checkParts parts) with
          | some (.ok _) => server.refuse request .methodNotFound
          | _ => server.refuse request .invalidParams

/-- Let time pass. A server that has exited sends nothing. -/
def advance (server : Server) (world : World) (milliseconds : Nat) : Turn :=
  let (session, report) := server.session.advance world milliseconds
  let sent := if server.phase = .exited then [] else report.publications.map Outgoing.publish
  ⟨{ server with session }, .silence, sent, report.notices⟩

end Server

end MarkupLint
