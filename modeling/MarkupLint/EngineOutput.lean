import MarkupLint.Finding
import MarkupLint.Text.Blank
/-!
# Engine output

An engine prints either a list of reports, one for each file and each with a list of messages, or
the findings themselves. Reports are tried first, as their list of messages must be stated. Output
that is blank holds no findings.
-/

namespace MarkupLint.EngineOutput

open Json (Decoded)

/-- Why output is not understood. -/
inductive Fault where
  | unreadable (error : Json.ReadError)
  | unrecognised
deriving DecidableEq, Repr

/-- The wording of a fault. -/
def Fault.message : Fault → String
  | .unreadable error => error.message
  | .unrecognised => "data did not match any variant of untagged enum EngineOutput"

/-- The messages of one report. -/
def decodeReport (value : Json) : Decoded (List Finding) := do
  let stated ← value.fields "FileReport" ["messages"]
  stated.required "messages" (Json.decodeList Finding.decode)

/-- The findings of a list of reports. -/
def decodeReports (value : Json) : Decoded (List Finding) :=
  (Json.decodeList decodeReport value).map List.flatten

/-- The findings of a document, if it has one of the two forms. -/
def decode? (document : Json) : Option (List Finding) :=
  match decodeReports document with
  | .ok findings => some findings
  | .error _ =>
      match Json.decodeList Finding.decode document with
      | .ok findings => some findings
      | .error _ => none

/-- The findings of printed text. The form of the document is checked before what follows it. -/
def parse (output : String) : Except Fault (List Finding) :=
  match Text.trim output.toList with
  | [] => .ok []
  | text => do
      let (document, rest) ← (Json.readFirst .whole text).mapError .unreadable
      match decode? document with
      | none => .error .unrecognised
      | some findings =>
          (Json.checkEnd text rest).mapError .unreadable
          return findings

end MarkupLint.EngineOutput
