import MarkupLint.Json.Decoding
import MarkupLint.Json.Reader
/-!
# Diagnostics

What a host shows of a lint run: zero-based positions with a message, a severity and the rule that
was broken. Each part has a written form as a document value and is read back from it.
-/

namespace MarkupLint

open Json (Decoded Demand)

/-- How grave a diagnostic is. -/
inductive Severity where
  | error
  | warning
deriving DecidableEq, Repr

namespace Severity

/-- Only the exact tag `error` is an error. -/
def ofTag (tag : String) : Severity := if tag = "error" then .error else .warning

/-- The name of a severity. -/
def name : Severity → String
  | .error => "error"
  | .warning => "warning"

/-- The severity with a name. -/
def ofName? : String → Option Severity
  | "error" => some .error
  | "warning" => some .warning
  | _ => none

/-- The written form. -/
def toJson (severity : Severity) : Json := .string severity.name

/-- The severity of a name. -/
def decodeName (name : String) : Decoded Severity :=
  match ofName? name with
  | some severity => .ok severity
  | none => .error (.unknownVariant name)

/-- A severity is written as its name, or as an object with its name for a key and null for a
value. -/
def decode : Json → Decoded Severity
  | .string name => decodeName name
  | .object [(name, .null)] => decodeName name
  | other => .error (.wrongKind other "enum Severity")

end Severity

/-- A zero-based position. -/
structure Position where
  line : UInt32
  character : UInt32
deriving DecidableEq, Repr

namespace Position

/-- The written form. -/
def toJson (position : Position) : Json :=
  .ofMembers [("line", .ofNat position.line.toNat), ("ch", .ofNat position.character.toNat)]

/-- What decoding looks at. -/
def demand : Demand := .record [("line", .whole), ("ch", .whole)]

/-- Both numbers must be stated. -/
def decode (value : Json) : Decoded Position := do
  let stated ← value.fields "Position" ["line", "ch"]
  return {
    line := ← stated.required "line" Json.decodeUInt32
    character := ← stated.required "ch" Json.decodeUInt32 }

end Position

/-- A diagnostic. -/
structure Diagnostic where
  position : Position
  message : String
  severity : Severity
  ruleId : Option String
deriving DecidableEq, Repr

namespace Diagnostic

/-- The written form; an absent rule is left out. -/
def toJson (diagnostic : Diagnostic) : Json :=
  .ofOptionalMembers [
    ("pos", some diagnostic.position.toJson),
    ("message", some (.string diagnostic.message)),
    ("type", some diagnostic.severity.toJson),
    ("rule_id", diagnostic.ruleId.map .string)]

/-- What decoding looks at. -/
def demand : Demand :=
  .record [("pos", Position.demand), ("message", .whole), ("type", .whole), ("rule_id", .whole)]

/-- Only the rule may be left out. -/
def decode (value : Json) : Decoded Diagnostic := do
  let stated ← value.fields "Diagnostic" ["pos", "message", "type", "rule_id"]
  return {
    position := ← stated.required "pos" Position.decode
    message := ← stated.required "message" Json.decodeString
    severity := ← stated.required "type" Severity.decode
    ruleId := ← stated.optional "rule_id" Json.decodeString }

end Diagnostic

/-- The diagnostics of one scan. -/
structure ScanResult where
  diagnostics : List Diagnostic
deriving DecidableEq, Repr

namespace ScanResult

/-- Whether some diagnostic is an error. -/
def hasErrors (result : ScanResult) : Bool :=
  result.diagnostics.any fun diagnostic => diagnostic.severity = .error

/-- The written form. -/
def toJson (result : ScanResult) : Json :=
  .ofMembers [("errors", .array (result.diagnostics.map Diagnostic.toJson))]

/-- What decoding looks at. -/
def demand : Demand := .record [("errors", .each Diagnostic.demand)]

/-- The list of diagnostics must be stated. -/
def decode (value : Json) : Decoded ScanResult := do
  let stated ← value.fields "ScanResult" ["errors"]
  return { diagnostics := ← stated.required "errors" (Json.decodeList Diagnostic.decode) }

end ScanResult

end MarkupLint
