import MarkupLint.Server.Params
/-!
# Methods

The methods that a host may call. Some requests and notifications of the protocol are known but
not offered; of their parameters only the parts that all hosts send are checked.
-/

namespace MarkupLint.Server

open Json (Decoded)

/-- A part of the parameters of a request that is not offered. -/
inductive ParamPart where
  | document
  | position
  | range
  | text (name : String)
deriving DecidableEq, Repr

/-- A method. -/
inductive Method where
  | invite
  | initialized
  | shutdown
  | exit
  | cancel
  | event (decode : Json → Decoded Event)
  | otherRequest (parts : List ParamPart)
  | otherNotification

namespace Method

/-- The methods of a session and its beginning and end. -/
def offered : List (String × Method) :=
  [("initialize", .invite), ("initialized", .initialized), ("shutdown", .shutdown),
    ("exit", .exit), ("$/cancelRequest", .cancel),
    ("textDocument/didOpen", .event decodeOpened),
    ("textDocument/didChange", .event decodeChanged),
    ("textDocument/didSave", .event decodeSaved),
    ("textDocument/didClose", .event decodeClosed),
    ("workspace/didChangeConfiguration", .event decodeSettingsChanged),
    ("workspace/didChangeWatchedFiles", .event decodeFilesChanged)]

/-- The requests about a position in a document that are not offered. -/
def positionRequests : List String :=
  ["completion", "hover", "signatureHelp", "declaration", "definition", "typeDefinition",
    "implementation", "references", "documentHighlight", "prepareRename", "linkedEditingRange",
    "moniker", "prepareCallHierarchy", "prepareTypeHierarchy"]

/-- The requests about a whole document that are not offered. -/
def documentRequests : List String :=
  ["documentSymbol", "codeLens", "documentLink", "documentColor", "formatting", "foldingRange",
    "selectionRange", "semanticTokens/full", "semanticTokens/full/delta", "diagnostic",
    "willSaveWaitUntil"]

/-- The requests about a range in a document that are not offered. -/
def rangeRequests : List String :=
  ["codeAction", "rangeFormatting", "colorPresentation", "semanticTokens/range", "inlineValue",
    "inlayHint"]

/-- All other requests that are not offered. -/
def otherRequests : List (String × List ParamPart) :=
  [("textDocument/rename", [.document, .position, .text "newName"]),
    ("textDocument/onTypeFormatting", [.document, .position, .text "ch"]),
    ("workspace/symbol", [.text "query"]), ("workspace/executeCommand", [.text "command"]),
    ("workspaceSymbol/resolve", [.text "name"]), ("completionItem/resolve", [.text "label"]),
    ("codeAction/resolve", [.text "title"]), ("codeLens/resolve", [.range]),
    ("documentLink/resolve", [.range]), ("inlayHint/resolve", [.position]),
    ("callHierarchy/incomingCalls", []), ("callHierarchy/outgoingCalls", []),
    ("typeHierarchy/supertypes", []), ("typeHierarchy/subtypes", []),
    ("workspace/diagnostic", []), ("workspace/willCreateFiles", []),
    ("workspace/willRenameFiles", []), ("workspace/willDeleteFiles", [])]

/-- The notifications that are known and not heeded. -/
def otherNotifications : List String :=
  ["textDocument/willSave", "workspace/didChangeWorkspaceFolders", "workspace/didCreateFiles",
    "workspace/didRenameFiles", "workspace/didDeleteFiles"]

/-- The requests of the protocol that are not offered. -/
def notOffered : List (String × Method) :=
  let named (parts : List ParamPart) (name : String) : String × Method :=
    ("textDocument/" ++ name, .otherRequest parts)
  positionRequests.map (named [.document, .position]) ++
    documentRequests.map (named [.document]) ++
    rangeRequests.map (named [.document, .range]) ++
    otherRequests.map (fun (name, parts) => (name, .otherRequest parts)) ++
    otherNotifications.map fun name => (name, .otherNotification)

/-- The method with a name. -/
def ofName? (name : String) : Option Method := (offered ++ notOffered).lookup name

end Method

/-- Check one part of parameters. -/
def ParamPart.check (stated : Json.Fields) : ParamPart → Decoded Unit
  | .document => do let _ ← stated.required "textDocument" decodeDocumentUri
  | .position => stated.required "position" decodePosition
  | .range => stated.required "range" decodeRange
  | .text name => do let _ ← stated.required name Json.decodeString

/-- Check the parameters of a request that is not offered. -/
def checkParts (parts : List ParamPart) (params : Json) : Decoded Unit :=
  match params with
  | .object members => parts.forM (ParamPart.check members)
  | other => .error (.wrongKind other "a map")

end MarkupLint.Server
