import MarkupLint.CommandLine.Report
import MarkupLint.Server.Framing
/-!
# Running the program

From the words of a command line, the world and the input to everything that the program shows:
its output, the notices on the way, the files that failed, and the exit code. Preferences that
were asked for and cannot be loaded, and a ruleset that cannot be resolved, end the program at
once.
-/

namespace MarkupLint.CommandLine

/-- What the program writes to its output. -/
inductive Output where
  | text (text : String)
  | help
  | messages (bodies : List Json)
deriving DecidableEq

/-- Everything that a run of the program shows. -/
structure Completion where
  code : Nat
  output : Output
  notices : List Notice
  failures : List String

namespace Completion

/-- A run that ends at once without output. -/
def fatal (notices : List Notice) : Completion := ⟨2, .text "", notices, []⟩

end Completion

/-- The engine that the options name: another program has the stated arguments only. -/
def Options.engineConfig (options : Options) : EngineConfig :=
  match options.engine with
  | some program => ⟨program, options.engineArguments⟩
  | none =>
      if options.engineArguments.isEmpty then .standard
      else { EngineConfig.standard with arguments := options.engineArguments }

/-- Load preferences from a file. -/
def loadPreferences (world : World) (path : Path) :
    Except LintError (PreferenceStore × List Notice) :=
  (PreferenceStore.load world.files path).map fun store => (store, [.preferencesLoaded path])

/-- The preferences: from the named file, or else from the user's file if there is one. -/
def Options.loadPreferences (options : Options) (world : World) :
    Except LintError (PreferenceStore × List Notice) :=
  match options.preferences with
  | some path => CommandLine.loadPreferences world path
  | none =>
      match (PreferenceStore.defaultPath? world).filter world.files.isFile with
      | some path => CommandLine.loadPreferences world path
      | none => .ok (.builtin, [])

/-- The root of the project: the named one or the working directory. -/
def Options.rootIn (options : Options) (world : World) : Path :=
  options.projectRoot.getD world.files.workingPath

/-- What the commands on a project start from. -/
structure Project where
  service : LintService
  workspace : Workspace
  notices : List Notice

/-- Open the project that the options name. -/
def Options.openProject [Process.Runner] (options : Options) (world : World) :
    Except LintError Project := do
  let (preferences, notices) ← options.loadPreferences world
  let root := options.rootIn world
  return ⟨.standard (.shared options.engineConfig.engine), ⟨preferences, some root⟩,
    notices ++ [.projectRoot root]⟩

/-- Lint the files that operands stand for. -/
def runLint (world : World) (project : Project) (operands : List Path) (format : Format) :
    Completion :=
  let view := FileView.ofTree project.service.supports world.files
  let outcomes :=
    lintFiles project.service world project.workspace (view.collect operands)
  let run := LintRun.ofOutcomes outcomes
  { code := if run.isFailure then 1 else 0
    output := .text (report format run.results)
    notices := project.notices ++ (view.unsupported operands).map .unsupportedFile ++
      outcomes.flatMap FileOutcome.notices
    failures := failureLines run.failures }

/-- Print the ruleset for a language. -/
def runConfig (world : World) (project : Project) (languageId : String) : Completion :=
  let readNotices := match project.service.registry.provider? languageId with
    | none => []
    | some adapter => adapter.notices world.files project.workspace
  let notices := project.notices ++ readNotices
  match project.service.resolveRuleset world.files project.workspace languageId with
  | .error _ => .fatal notices
  | .ok ruleset => ⟨0, .text (unlines [ruleset.pretty]), notices, []⟩

/-- The server that the options ask for. No project is open until the host names one. -/
def Options.startServer [Process.Runner] (options : Options) (world : World) :
    Except LintError (Server × List Notice) := do
  let (preferences, notices) ← options.loadPreferences world
  let service := LintService.standard (.shared options.engineConfig.engine)
  return (Server.start service ⟨preferences, none⟩, notices ++ [.serverStarting])

/-- Serve the host that wrote some input. -/
def runServer [Process.Runner] (world : World) (options : Options) (input : Octets) :
    Completion :=
  match options.startServer world with
  | .error _ => .fatal []
  | .ok (server, notices) =>
      let conversation := Server.converse world server input
      ⟨0, .messages conversation.sent, notices ++ conversation.notices, []⟩

/-- The name and version of the program. -/
def versionLine : String := "markuphint 0.1.0"

/-- The paths that a wish names. -/
def Wish.paths : Wish → List Path
  | .run options command =>
      let operands := match command with
        | .lint operands _ => operands
        | .config _ | .serve => []
      options.projectRoot.toList ++ options.preferences.toList ++ operands
  | .help | .version | .mistake => []

/-- Run the program. -/
def run [Process.Runner] (world : World) (words : List String) (input : Octets) :
    Completion :=
  match Wish.ofWords words with
  | .mistake => .fatal []
  | .help => ⟨0, .help, [], []⟩
  | .version => ⟨0, .text (unlines [versionLine]), [], []⟩
  | .run options .serve => runServer world options input
  | .run options (.lint operands format) =>
      match options.openProject world with
      | .error _ => .fatal []
      | .ok project => runLint world project operands format
  | .run options (.config languageId) =>
      match options.openProject world with
      | .error _ => .fatal []
      | .ok project => runConfig world project languageId

end MarkupLint.CommandLine
