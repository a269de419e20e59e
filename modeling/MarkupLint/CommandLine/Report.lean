import MarkupLint.CommandLine.Lint
import MarkupLint.CommandLine.Options
import MarkupLint.Json.Printer
/-!
# Reports

The two forms of a lint report. The text counts lines from one, names a missing rule by a dash and
ends with the totals; the document lists every file, also the clean ones, with its diagnostics.
-/

namespace MarkupLint.CommandLine

/-- The line of a diagnostic in a text report. -/
def diagnosticLine (diagnostic : Diagnostic) : String :=
  "  " ++ toString (diagnostic.position.line + 1) ++ ":" ++
    toString diagnostic.position.character ++ " " ++ diagnostic.severity.name ++
    " [" ++ diagnostic.ruleId.getD "-" ++ "]: " ++ diagnostic.message

/-- The lines of a file in a text report. A file without a scan result is left out. -/
def fileLines (file : FileResult) : List String :=
  match file.result with
  | none => []
  | some result =>
      ["", file.path.display ++ ":"] ++ result.diagnostics.map diagnosticLine

/-- The number of diagnostics of all files. -/
def totalIssues (results : List FileResult) : Nat :=
  (results.flatMap FileResult.diagnostics).length

/-- The lines of a text report. -/
def textReport (results : List FileResult) : List String :=
  results.flatMap fileLines ++
    ["", "Checked " ++ toString results.length ++ " files, found " ++
      toString (totalIssues results) ++ " issues"]

/-- A file in a document report. -/
def fileJson (file : FileResult) : Json :=
  .ofMembers [
    ("path", .string file.path.display),
    ("diagnostics", .array (file.diagnostics.map Diagnostic.toJson))]

/-- The document of a report. -/
def jsonReport (results : List FileResult) : Json := .array (results.map fileJson)

/-- Lines, each with its end. -/
def unlines (lines : List String) : String := String.join (lines.map (· ++ "\n"))

/-- A report in a form. -/
def report (format : Format) (results : List FileResult) : String :=
  match format with
  | .text => unlines (textReport results)
  | .json => unlines [(jsonReport results).pretty]

/-- The lines about the files that failed. -/
def failureLines (failures : List FileFailure) : List String :=
  if failures.isEmpty then []
  else
    (toString failures.length ++ " file(s) failed to lint:") ::
      failures.map fun failure =>
        "  " ++ failure.path.display ++ ": " ++ failure.fault.message

end MarkupLint.CommandLine
