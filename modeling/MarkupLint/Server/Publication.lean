import MarkupLint.Diagnostic
import MarkupLint.LintError
import MarkupLint.Uri.Basic
/-!
# Publications

A publication tells the host all markers of one document; it replaces the one before it. A marker
has no extent: it starts and ends where the engine points to. A scan that fails is shown as one
marker at the start of the document.
-/

namespace MarkupLint.Server

/-- What a host shows at a position of a document. -/
structure Marker where
  position : Position
  severity : Severity
  code : Option String
  source : String
  message : String
deriving DecidableEq, Repr

namespace Marker

/-- The marker of a diagnostic from a source. -/
def ofDiagnostic (source : String) (diagnostic : Diagnostic) : Marker where
  position := diagnostic.position
  severity := diagnostic.severity
  code := diagnostic.ruleId
  source
  message := diagnostic.message

/-- The marker of a scan that failed. -/
def ofFailure (source : String) (error : LintError) : Marker where
  position := ⟨0, 0⟩
  severity := .error
  code := none
  source
  message := source ++ " failed: " ++ error.message

/-- The markers of the result of a scan. -/
def ofResult (source : String) : Except LintError (Option ScanResult) → List Marker
  | .ok none => []
  | .ok (some result) => result.diagnostics.map (ofDiagnostic source)
  | .error error => [ofFailure source error]

/-- The number of a severity on the wire. -/
def severityNumber : Severity → Nat
  | .error => 1
  | .warning => 2

/-- A position on the wire. -/
def positionJson (position : Position) : Json :=
  .ofMembers [("line", .ofNat position.line.toNat), ("character", .ofNat position.character.toNat)]

/-- A marker on the wire. -/
def toJson (marker : Marker) : Json :=
  let place := positionJson marker.position
  .ofOptionalMembers [
    ("range", some (.ofMembers [("start", place), ("end", place)])),
    ("severity", some (.ofNat (severityNumber marker.severity))),
    ("code", marker.code.map .string),
    ("source", some (.string marker.source)),
    ("message", some (.string marker.message))]

end Marker

/-- All markers of a document, for a version of it if one is named. -/
structure Publication where
  uri : Uri
  markers : List Marker
  version : Option Int
deriving DecidableEq, Repr

/-- A publication on the wire. -/
def Publication.toJson (publication : Publication) : Json :=
  .ofOptionalMembers [
    ("uri", some (.string publication.uri.text)),
    ("diagnostics", some (.array (publication.markers.map Marker.toJson))),
    ("version", publication.version.map fun version => .number (.integer version))]

end MarkupLint.Server
