import MarkupLint.EngineOutput
import MarkupLint.Path
import MarkupLint.Process.Basic
/-!
# Errors of a lint run

The causes for which configuration cannot be resolved or a document cannot be linted, and their
wording.
-/

namespace MarkupLint

/-- Why preferences cannot be used. -/
inductive PreferenceFault where
  | notJson (error : Json.ReadError)
  | unreadable (path : Path) (fault : SystemFault)
  | notObject (kind : String)
  | other (text : String)
deriving DecidableEq, Repr

/-- The wording of a preference fault. -/
def PreferenceFault.message : PreferenceFault → String
  | .notJson error => "Invalid JSON: " ++ error.message
  | .unreadable path fault => "Failed to read " ++ path.display ++ ": " ++ fault.message
  | .notObject kind => "Expected a settings object, found " ++ kind
  | .other text => text

/-- Why an engine gave no findings. -/
inductive EngineFault where
  | notStarted (program : String) (fault : SystemFault)
  | failed (program : String) (status : Process.ExitStatus) (errors : String)
  | output (fault : EngineOutput.Fault)
  | other (text : String)
deriving DecidableEq, Repr

/-- The wording of an engine fault. -/
def EngineFault.message : EngineFault → String
  | .notStarted program fault => "Failed to run " ++ program ++ ": " ++ fault.message
  | .failed program status errors =>
      program ++ " exited with " ++ status.message ++ ": " ++ errors
  | .output fault => "Unrecognised engine output: " ++ fault.message
  | .other text => text

/-- What went wrong inside the linter. -/
inductive InternalFault where
  | engineCrashed
  | writerCrashed
  | noProvider (languageId : String)
  | other (text : String)
deriving DecidableEq, Repr

/-- The wording of an internal fault. -/
def InternalFault.message : InternalFault → String
  | .engineCrashed => "Engine task failed"
  | .writerCrashed => "stdin writer thread panicked"
  | .noProvider languageId => "No provider for " ++ languageId
  | .other text => text

/-- Why a lint run has no result. -/
inductive LintError where
  | malformedConfig (path : Path) (error : Json.ReadError)
  | preferences (fault : PreferenceFault)
  | engine (fault : EngineFault)
  | serialization (error : Json.ReadError)
  | system (fault : SystemFault)
  | internal (fault : InternalFault)
deriving DecidableEq, Repr

namespace LintError

/-- The wording of an error. -/
def message : LintError → String
  | .malformedConfig path error => "Failed to parse " ++ path.display ++ ": " ++ error.message
  | .preferences fault => "Preferences error: " ++ fault.message
  | .engine fault => "Engine error: " ++ fault.message
  | .serialization error => "Serialization error: " ++ error.message
  | .system fault => "I/O error: " ++ fault.message
  | .internal fault => "Internal error: " ++ fault.message

/-- Whether a malformed configuration file is the cause. -/
def isConfigError : LintError → Bool
  | .malformedConfig .. => true
  | _ => false

end LintError

end MarkupLint
