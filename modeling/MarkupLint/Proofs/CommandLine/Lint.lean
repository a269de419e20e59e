import MarkupLint.CommandLine.Run
import MarkupLint.Proofs.Adapter
import MarkupLint.Proofs.CommandLine.Report
import MarkupLint.Proofs.Finding
import MarkupLint.Proofs.Scan

/-!
# One story about the files

Linting a file depends on its own text and on the configuration.  So a run over many files divides
them into those with a result and those that failed, whatever the others are.  The exit code follows
from the two lists alone, and each form of the report lists the first of them: no form hides a
failure, and no result makes up for one.
-/

namespace MarkupLint.CommandLine

namespace Project

/-- What becomes of a file. -/
def lint (project : Project) (world : World) (path : Path) :
    Except FileFault (Option ScanResult) :=
  (lintFile project.service world project.workspace path).outcome

/-- The files that operands stand for. -/
def collect (project : Project) (world : World) (operands : List Path) : List Path :=
  (FileView.ofTree project.service.supports world.files).collect operands

end Project

section Division

variable {outcome : Path → Except FileFault (Option ScanResult)} {files : List Path}
  {run : LintRun} {path : Path}

end Division

namespace Project

variable {project : Project} {world other : World} {path : Path}

end Project

end MarkupLint.CommandLine
