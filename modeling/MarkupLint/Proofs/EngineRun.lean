import MarkupLint.Engine.External
import MarkupLint.Proofs.WrittenOutput
import Mathlib.Data.List.DropRight

/-!
# Runs of an engine process

A run is judged by its status, by what it printed and by how far its input could be fed to it.
Findings that it printed count whatever its status; a run that printed nothing is clean only if it
also succeeded.  A broken pipe says no more than that the program did not care for its input, so it
must not hide the status or the findings, while any other fault in feeding hides both.
-/

namespace MarkupLint

namespace Text

end Text

namespace EngineConfig

open Process (Finished Outcome)

section Output

variable (config : EngineConfig) {run : Finished}

end Output

section Run

variable (config : EngineConfig) {run : Finished}

end Run

end EngineConfig

end MarkupLint
