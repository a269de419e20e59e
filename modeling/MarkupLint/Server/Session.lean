import MarkupLint.Notice
import MarkupLint.Server.Document
import MarkupLint.Server.Publication
import MarkupLint.Service
/-!
# Sessions

A session keeps the open documents linted. A document is scanned at once when it is opened or
saved, and some time after it was changed, unless it has another version by then. When the
preferences or a configuration file change, every open document is scanned again. Closing a
document clears what was published for it.
-/

namespace MarkupLint.Server

/-- A scan of a changed text that waits for its time. -/
structure PendingCheck where
  uri : Uri
  text : String
  version : Int
  due : Nat
deriving DecidableEq, Repr

/-- The time in milliseconds that a changed text waits to be scanned. -/
def checkDelay : Nat := 300

/-- The state of a session. -/
structure Session where
  workspace : Workspace
  service : LintService
  documents : Documents
  pending : List PendingCheck
  clock : Nat

/-- What a session says: publications for the host and notices for the user. -/
structure Report where
  publications : List Publication
  notices : List Notice

namespace Report

/-- Nothing to say. -/
def nothing : Report := ⟨[], []⟩

/-- One report after another. -/
def andThen (first second : Report) : Report :=
  ⟨first.publications ++ second.publications, first.notices ++ second.notices⟩

/-- Reports one after another. -/
def all (reports : List Report) : Report := reports.foldr andThen nothing

end Report

/-- What happens to a session: a message of the host, or the end of a pending check's wait. -/
inductive Event where
  | opened (uri : Uri) (document : Document)
  | changed (uri : Uri) (version : Int) (texts : List String)
  | saved (uri : Uri) (text : Option String)
  | closed (uri : Uri)
  | settingsChanged (settings : Json)
  | filesChanged (uris : List Uri)
  | expired (index : Nat)

namespace Session

/-- A session in which nothing is open. -/
def start (workspace : Workspace) (service : LintService) : Session :=
  ⟨workspace, service, .empty, [], 0⟩

/-- Scan a text and report on it. Documents that lead to no file or that no adapter handles are
passed over in silence. -/
def check (session : Session) (world : World) (uri : Uri) (text : String)
    (version : Option Int) : Report :=
  match uri.path? with
  | none => .nothing
  | some path =>
      let scan := session.service.scan world session.workspace text path
      match scan.adapter with
      | none => .nothing
      | some adapter =>
          let failure : List Notice := match scan.run.result with
            | .ok _ => []
            | .error error => [.scanFailed adapter.name uri error]
          ⟨[⟨uri, Marker.ofResult adapter.name scan.run.result, version⟩],
            adapter.notices world.files session.workspace ++ failure⟩

/-- Scan every open document again. -/
def checkAll (session : Session) (world : World) : Report :=
  .all (session.documents.entries.map fun (uri, document) =>
    session.check world uri document.text (some document.version))

/-- The section under which a host may nest the settings. -/
def settingsSection : String := "markuphint"

/-- The settings in what the host sent. -/
def unwrapSettings (settings : Json) : Json := (settings.get? settingsSection).getD settings

/-- Apply settings; settings that are no object are dropped. Tells which namespaces they state. -/
def applySettings (session : Session) (settings : Json) : Session × List Namespace :=
  match session.workspace.applySettings (unwrapSettings settings) with
  | .ok (workspace, changed) => ({ session with workspace }, changed)
  | .error _ => (session, [])

/-- Whether an identifier leads to a configuration file. -/
def isRcFile (uri : Uri) : Bool := (uri.path?.bind RcFile.ofPath?).isSome

/-- Take a pending check out of the list and scan its text if it is the current version. -/
def expire (session : Session) (world : World) (index : Nat) : Session × Report :=
  match session.pending[index]? with
  | none => (session, .nothing)
  | some pending =>
      let rest := { session with pending := session.pending.eraseIdx index }
      match session.documents.get? pending.uri with
      | none => (rest, .nothing)
      | some document =>
          if document.version = pending.version then
            (rest, rest.check world pending.uri pending.text (some pending.version))
          else (rest, .nothing)

/-- Take one event. -/
def step (session : Session) (world : World) : Event → Session × Report
  | .opened uri document =>
      let session := { session with documents := session.documents.insert uri document }
      (session, session.check world uri document.text (some document.version))
  | .changed uri version texts =>
      match texts.getLast? with
      | none => (session, .nothing)
      | some text =>
          let pending : PendingCheck := ⟨uri, text, version, session.clock + checkDelay⟩
          ({ session with
              documents := session.documents.insert uri ⟨text, version⟩
              pending := session.pending ++ [pending] }, .nothing)
  | .saved uri text =>
      match text with
      | some text => (session, session.check world uri text none)
      | none =>
          match session.documents.get? uri with
          | none => (session, .nothing)
          | some document => (session, session.check world uri document.text none)
  | .closed uri =>
      ({ session with documents := session.documents.erase uri }, ⟨[⟨uri, [], none⟩], []⟩)
  | .settingsChanged settings =>
      let (session, changed) := session.applySettings settings
      if changed.isEmpty then (session, .nothing)
      else
        let notices := changed.map Notice.preferencesChanged
        (session, Report.andThen ⟨[], notices⟩ (session.checkAll world))
  | .filesChanged uris =>
      if uris.any isRcFile then
        (session, Report.andThen ⟨[], [.configurationChanged]⟩ (session.checkAll world))
      else (session, .nothing)
  | .expired index => session.expire world index

/-- Expire the pending checks whose time has come, at most as many as given. -/
def expireDue (world : World) : (most : Nat) → Session → Session × Report
  | 0, session => (session, .nothing)
  | most + 1, session =>
      match session.pending.findIdx? (·.due ≤ session.clock) with
      | none => (session, .nothing)
      | some index =>
          let (session, report) := session.step world (.expired index)
          let (session, later) := expireDue world most session
          (session, report.andThen later)

/-- Let time pass. -/
def advance (session : Session) (world : World) (milliseconds : Nat) : Session × Report :=
  expireDue world session.pending.length { session with clock := session.clock + milliseconds }

end Session

end MarkupLint.Server
