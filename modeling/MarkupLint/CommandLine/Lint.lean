import MarkupLint.CommandLine.Files
import MarkupLint.Service
/-!
# Linting files

Every file is read and scanned on its own and ends up either among the results or among the
failures. The run is a success only if nothing failed and no diagnostic is an error.
-/

namespace MarkupLint.CommandLine

/-- The result of a file that was scanned. -/
structure FileResult where
  path : Path
  result : Option ScanResult
deriving DecidableEq, Repr

namespace FileResult

/-- The diagnostics of the file. -/
def diagnostics (file : FileResult) : List Diagnostic :=
  match file.result with
  | none => []
  | some result => result.diagnostics

/-- Whether some diagnostic is an error. -/
def hasErrors (file : FileResult) : Bool := file.result.any ScanResult.hasErrors

end FileResult

/-- Why a file has no result. -/
inductive FileFault where
  | unreadable (fault : SystemFault)
  | notLinted (error : LintError)
deriving DecidableEq, Repr

/-- The wording of a fault. -/
def FileFault.message : FileFault → String
  | .unreadable fault => fault.message
  | .notLinted error => error.message

/-- A file that failed. -/
structure FileFailure where
  path : Path
  fault : FileFault
deriving DecidableEq, Repr

/-- What became of one file, with the notices on the way. -/
structure FileOutcome where
  path : Path
  outcome : Except FileFault (Option ScanResult)
  notices : List Notice

/-- Read and scan a file. -/
def lintFile (service : LintService) (world : World) (workspace : Workspace) (path : Path) :
    FileOutcome :=
  match world.files.readText path with
  | .error fault => ⟨path, .error (.unreadable fault), []⟩
  | .ok text =>
      let scan := service.scan world workspace text path
      let notices := match scan.adapter with
        | none => []
        | some adapter => adapter.notices world.files workspace
      ⟨path, scan.run.result.mapError .notLinted, notices⟩

/-- The outcome of linting some files. -/
structure LintRun where
  results : List FileResult
  failures : List FileFailure
deriving DecidableEq, Repr

namespace LintRun

/-- The results and the failures of files, each in their order. -/
def ofOutcomes (outcomes : List FileOutcome) : LintRun where
  results := outcomes.filterMap fun file =>
    match file.outcome with
    | .ok result => some ⟨file.path, result⟩
    | .error _ => none
  failures := outcomes.filterMap fun file =>
    match file.outcome with
    | .ok _ => none
    | .error fault => some ⟨file.path, fault⟩

/-- Whether some file failed or has an error. -/
def isFailure (run : LintRun) : Bool :=
  run.results.any FileResult.hasErrors || !run.failures.isEmpty

end LintRun

/-- Lint files one after the other. -/
def lintFiles (service : LintService) (world : World) (workspace : Workspace)
    (paths : List Path) : List FileOutcome :=
  paths.map (lintFile service world workspace)

end MarkupLint.CommandLine
