import MarkupLint.Engine.Config
import MarkupLint.LintError
/-!
# Findings of an engine process

What a run of an external engine means. Findings count whatever the status, a failed run without
readable findings is an error, and so is a successful run with unreadable output. Input that the
engine did not care to read is no error, other faults in feeding it are.
-/

namespace MarkupLint.EngineConfig

open Process (ExitStatus Feeding Finished Outcome)

/-- Whether the text holds nothing but blanks. -/
def isBlankText (text : String) : Bool := Text.trim text.toList = []

/-- The error of a run that ended with a status other than success. -/
def failure (config : EngineConfig) (run : Finished) : LintError :=
  .engine (.failed config.program run.status
    (Text.trimString (Utf8.decodeLossy run.errors)))

/-- The findings of a finished run whose input was fed to it. -/
def findingsOfOutput (config : EngineConfig) (run : Finished) :
    Except LintError (List Finding) :=
  let output := Utf8.decodeLossy run.output
  if !run.status.isSuccess && isBlankText output then .error (config.failure run)
  else match EngineOutput.parse output with
    | .ok findings => .ok findings
    | .error fault =>
        if run.status.isSuccess then .error (.engine (.output fault))
        else .error (config.failure run)

/-- The findings of a run. -/
def findingsOfRun (config : EngineConfig) (outcome : Outcome) :
    Except LintError (List Finding) :=
  match outcome with
  | .notStarted fault => .error (.engine (.notStarted config.program fault))
  | .finished run =>
      match run.feeding with
      | .complete | .failed .brokenPipe => config.findingsOfOutput run
      | .failed fault => .error (.system fault)
      | .crashed => .error (.internal .writerCrashed)

end MarkupLint.EngineConfig
