import MarkupLint.Diagnostic
/-!
# Findings

What a lint engine reports. An engine counts lines from one and may leave out any part of a
finding or give it a value of the wrong kind; the parts that place and describe the finding then
fall back to a default. A finding without a usable line has no place in a document and is not
shown.
-/

namespace MarkupLint

open Json (Decoded Demand)

/-- The rule that a finding refers to. -/
structure RuleRef where
  id : String
  description : Option String := none
  link : Option String := none
deriving DecidableEq, Repr

namespace RuleRef

/-- The written form; absent parts are left out. -/
def toJson (rule : RuleRef) : Json :=
  .ofOptionalMembers [
    ("id", some (.string rule.id)),
    ("description", rule.description.map .string),
    ("link", rule.link.map .string)]

/-- What decoding looks at. -/
def demand : Demand := .record [("id", .whole), ("description", .whole), ("link", .whole)]

/-- Only the id must be stated. -/
def decode (value : Json) : Decoded RuleRef := do
  let stated ← value.fields "RuleRef" ["id", "description", "link"]
  return {
    id := ← stated.required "id" Json.decodeString
    description := ← stated.optional "description" Json.decodeString
    link := ← stated.optional "link" Json.decodeString }

end RuleRef

/-- A finding of a lint engine. -/
structure Finding where
  line : Option UInt32
  column : UInt32
  message : String
  tag : String
  rule : Option RuleRef := none
  evidence : Option String := none
  raw : Option String := none
deriving DecidableEq, Repr

namespace Finding

/-- The tag of a finding that states none. -/
def defaultTag : String := "warning"

/-- An unsigned integer of 32 bits, if the value is one. -/
def lenientUInt32? : Json → Option UInt32
  | .number value => value.toUInt32?
  | _ => none

/-- A string, if the value is one. -/
def lenientString? : Json → Option String
  | .string text => some text
  | _ => none

/-- The written form; absent parts are left out, except that an absent line is null. -/
def toJson (finding : Finding) : Json :=
  .ofOptionalMembers [
    ("line", some ((finding.line.map fun line => Json.ofNat line.toNat).getD .null)),
    ("col", some (.ofNat finding.column.toNat)),
    ("message", some (.string finding.message)),
    ("type", some (.string finding.tag)),
    ("rule", finding.rule.map RuleRef.toJson),
    ("evidence", finding.evidence.map .string),
    ("raw", finding.raw.map .string)]

/-- The names of the parts in their order. -/
def fieldNames : List String := ["line", "col", "message", "type", "rule", "evidence", "raw"]

/-- What decoding looks at. -/
def demand : Demand :=
  .record [("line", .whole), ("col", .whole), ("message", .whole), ("type", .whole),
    ("rule", RuleRef.demand), ("evidence", .whole), ("raw", .whole)]

/-- Line, column, message and tag may be anything; the other parts must be well formed if they
are stated. -/
def decode (value : Json) : Decoded Finding := do
  let stated ← value.fields "Finding" fieldNames
  return {
    line := (stated.lookup "line").bind lenientUInt32?
    column := ((stated.lookup "col").bind lenientUInt32?).getD 0
    message := ((stated.lookup "message").bind lenientString?).getD ""
    tag := ((stated.lookup "type").bind lenientString?).getD defaultTag
    rule := ← stated.optional "rule" RuleRef.decode
    evidence := ← stated.optional "evidence" Json.decodeString
    raw := ← stated.optional "raw" Json.decodeString }

/-- The diagnostic of a finding, if it has a line past zero. -/
def toDiagnostic? (finding : Finding) : Option Diagnostic :=
  match finding.line with
  | none => none
  | some line =>
      if line = 0 then none
      else some {
        position := ⟨line - 1, finding.column⟩
        message := finding.message
        severity := Severity.ofTag finding.tag
        ruleId := finding.rule.map RuleRef.id }

/-- The scan result of some findings, or none if no finding can be shown. -/
def translate (findings : List Finding) : Option ScanResult :=
  match findings.filterMap toDiagnostic? with
  | [] => none
  | diagnostics => some ⟨diagnostics⟩

end Finding

end MarkupLint
