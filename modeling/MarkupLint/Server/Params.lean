import MarkupLint.Engine.Config
import MarkupLint.Server.Session
import MarkupLint.Uri.Reader
/-!
# Parameters of messages

What a host sends along with its messages, and how it is read. A message whose parameters cannot
be read is refused if it asks for an answer and dropped otherwise.
-/

namespace MarkupLint.Server

open Json (Decoded)

/-- An identifier. -/
def decodeUri : Json → Decoded Uri
  | .string text =>
      match Uri.ofString? text with
      | some uri => .ok uri
      | none => .error (.invalidUri text)
  | other => .error (.wrongKind other "a string representing an URL")

/-- A record that holds an identifier. -/
def decodeDocumentUri (value : Json) : Decoded Uri := do
  let stated ← value.strictFields "TextDocumentIdentifier" ["uri"]
  stated.required "uri" decodeUri

/-- A record with nothing in it. -/
def decodeEmpty (value : Json) : Decoded Unit := do
  let _ ← value.fields "InitializedParams" []

/-- A document was opened. -/
def decodeOpened (value : Json) : Decoded Event := do
  let stated ← value.strictFields "DidOpenTextDocumentParams" ["textDocument"]
  stated.required "textDocument" fun item => do
    let stated ← item.strictFields "TextDocumentItem" ["uri", "languageId", "version", "text"]
    let uri ← stated.required "uri" decodeUri
    let _ ← stated.required "languageId" Json.decodeString
    let version ← stated.required "version" Json.decodeInt32
    let text ← stated.required "text" Json.decodeString
    return .opened uri ⟨text, version⟩

/-- A position on the wire. -/
def decodePosition (value : Json) : Decoded Unit := do
  let stated ← value.strictFields "Position" ["line", "character"]
  let _ ← stated.required "line" Json.decodeUInt32
  let _ ← stated.required "character" Json.decodeUInt32

/-- A range on the wire. -/
def decodeRange (value : Json) : Decoded Unit := do
  let stated ← value.strictFields "Range" ["start", "end"]
  let _ ← stated.required "start" decodePosition
  let _ ← stated.required "end" decodePosition

/-- The text of a change, which always is the whole document. -/
def decodeChange (value : Json) : Decoded String := do
  let stated ← value.strictFields "TextDocumentContentChangeEvent"
    ["range", "rangeLength", "text"]
  let _ ← stated.optional "range" decodeRange
  let _ ← stated.optional "rangeLength" Json.decodeUInt32
  stated.required "text" Json.decodeString

/-- A document was changed. -/
def decodeChanged (value : Json) : Decoded Event := do
  let stated ← value.strictFields "DidChangeTextDocumentParams"
    ["textDocument", "contentChanges"]
  let (uri, version) ← stated.required "textDocument" fun item => do
    let stated ← item.strictFields "VersionedTextDocumentIdentifier" ["uri", "version"]
    let uri ← stated.required "uri" decodeUri
    let version ← stated.required "version" Json.decodeInt32
    return (uri, version)
  let texts ← stated.required "contentChanges" (Json.decodeList decodeChange)
  return .changed uri version texts

/-- A document was saved. -/
def decodeSaved (value : Json) : Decoded Event := do
  let stated ← value.strictFields "DidSaveTextDocumentParams" ["textDocument", "text"]
  let uri ← stated.required "textDocument" decodeDocumentUri
  let text ← stated.optional "text" Json.decodeString
  return .saved uri text

/-- A document was closed. -/
def decodeClosed (value : Json) : Decoded Event := do
  let stated ← value.strictFields "DidCloseTextDocumentParams" ["textDocument"]
  let uri ← stated.required "textDocument" decodeDocumentUri
  return .closed uri

/-- The settings were changed. -/
def decodeSettingsChanged (value : Json) : Decoded Event := do
  let stated ← value.strictFields "DidChangeConfigurationParams" ["settings"]
  let settings ← stated.required "settings" Json.decodeAny
  return .settingsChanged settings

/-- Watched files were changed. -/
def decodeFilesChanged (value : Json) : Decoded Event := do
  let stated ← value.strictFields "DidChangeWatchedFilesParams" ["changes"]
  let uris ← stated.required "changes" (Json.decodeList fun change => do
    let stated ← change.strictFields "FileEvent" ["uri", "type"]
    let uri ← stated.required "uri" decodeUri
    let _ ← stated.required "type" Json.decodeInt32
    return uri)
  return .filesChanged uris

/-- What a host asks for when it starts a session. -/
structure Invitation where
  rootUri : Option Uri
  folders : Option (List Uri)
  options : Option Json

namespace Invitation

/-- The root of the project: the first folder, or else the stated root. -/
def root (invitation : Invitation) : Option Uri :=
  match invitation.folders.bind List.head? with
  | some folder => some folder
  | none => invitation.rootUri

/-- A folder of the workspace. -/
def decodeFolder (value : Json) : Decoded Uri := do
  let stated ← value.strictFields "WorkspaceFolder" ["uri", "name"]
  let uri ← stated.required "uri" decodeUri
  let _ ← stated.required "name" Json.decodeString
  return uri

/-- How much the host wants to be told. -/
def decodeTrace : Json → Decoded Unit
  | .string "off" | .string "messages" | .string "verbose" => .ok ()
  | .string other => .error (.unknownVariant other)
  | other => .error (.wrongKind other "enum TraceValue")

/-- The name and version of the host. -/
def decodeHost (value : Json) : Decoded Unit := do
  let stated ← value.strictFields "ClientInfo" ["name", "version"]
  let _ ← stated.required "name" Json.decodeString
  let _ ← stated.optional "version" Json.decodeString

/-- What the host can do, none of which matters here. -/
def decodeCapabilities : Json → Decoded Unit
  | .object _ => .ok ()
  | other => .error (.wrongKind other "struct ClientCapabilities")

/-- Only the capabilities must be stated. -/
def decode (value : Json) : Decoded Invitation := do
  let stated ← value.strictFields "InitializeParams"
    ["processId", "rootPath", "rootUri", "initializationOptions", "capabilities", "trace",
      "workspaceFolders", "clientInfo", "locale"]
  let _ ← stated.optional "processId" Json.decodeUInt32
  let _ ← stated.optional "rootPath" Json.decodeString
  let rootUri ← stated.optional "rootUri" decodeUri
  let options ← stated.optional "initializationOptions" Json.decodeAny
  stated.required "capabilities" decodeCapabilities
  let _ ← stated.optional "trace" decodeTrace
  let folders ← stated.optional "workspaceFolders" (Json.decodeList decodeFolder)
  let _ ← stated.optional "clientInfo" decodeHost
  let _ ← stated.optional "locale" Json.decodeString
  return { rootUri, folders, options }

end Invitation

/-- The options with which a host may start a session: settings and the engine to use. -/
structure StartOptions where
  preferences : Option Json
  engine : Option EngineConfig

/-- Both options may be left out. -/
def StartOptions.decode (value : Json) : Decoded StartOptions := do
  let stated ← value.fields "InitializationOptions" ["preferences", "engine"]
  let engine ← stated.optional "engine" EngineConfig.decode
  let preferences ← stated.optional "preferences" Json.decodeAny
  return { preferences, engine }

end MarkupLint.Server
