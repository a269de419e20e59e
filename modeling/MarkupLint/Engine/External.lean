import MarkupLint.Engine.Basic
import MarkupLint.Engine.Outcome
import MarkupLint.Json.Printer
import MarkupLint.Shell.Machine
/-!
# External engines

An external engine is run once for every text. It finds the ruleset in a temporary file, the text
on its input, and is expected to print its findings. How programs are run is left open; unless
another way is given, the machine for shell commands runs them.
-/

namespace MarkupLint

/-- A way to run programs: what can be observed of running a command on an input in a world. It is
inferred, so that nothing in between has to hand it on. -/
class Process.Runner where
  observe : World → Process.Command → Octets → Process.Outcome

/-- The way to run programs unless another one is given. -/
instance Process.Runner.shell : Process.Runner := ⟨Shell.Machine.run⟩

namespace EngineConfig

/-- The file in which the engine finds the ruleset. -/
def rulesetPath (world : World) : Path :=
  let directory := Path.ofString ((world.setting? "TMPDIR").getD "/tmp")
  (world.files.workingPath.join directory).join (Path.ofString "markuphint-4zT0kQ.json")

/-- The world in which the engine runs. -/
def worldWithRuleset (world : World) (ruleset : Json) : World :=
  let content := Octets.ofString ruleset.compact
  { world with files := world.files.put (rulesetPath world) (.file content false) }

/-- What can be observed of running the engine on a text. -/
def run [Process.Runner] (config : EngineConfig) (world : World) (text : String)
    (ruleset : Json) : Process.Outcome :=
  Process.Runner.observe (worldWithRuleset world ruleset)
    (config.command (rulesetPath world).display) (Octets.ofString text)

/-- The engine that a configuration describes. -/
def engine [Process.Runner] (config : EngineConfig) : Engine where
  name := config.program
  verify world text ruleset :=
    match config.findingsOfRun (config.run world text ruleset) with
    | .ok findings => .findings findings
    | .error error => .failed error

end EngineConfig

end MarkupLint
