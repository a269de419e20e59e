import MarkupLint.Adapter
import MarkupLint.Uri.Basic
/-!
# Notices

What the program tells its user on the way, line by line, apart from its results.
-/

namespace MarkupLint

/-- How much a notice matters. -/
inductive NoticeLevel where
  | info
  | warning
deriving DecidableEq, Repr

/-- A notice. -/
inductive Notice where
  | preferencesLoaded (path : Path)
  | projectRoot (path : Path)
  | malformedConfig (path : Path) (error : Json.ReadError)
  | ignoredConfig (path : Path) (kind : String)
  | unsupportedFile (path : Path)
  | serverStarting
  | serverInitializing
  | serverShuttingDown
  | shutdownRequested
  | exitRequested
  | initializedTwice
  | optionsIgnored (error : Json.DecodeError)
  | preferencesChanged (selected : Namespace)
  | engineChosen (program : String)
  | configurationChanged
  | scanFailed (source : String) (uri : Uri) (error : LintError)
deriving Repr

namespace Notice

/-- How much a notice matters. -/
def level : Notice → NoticeLevel
  | .malformedConfig .. | .ignoredConfig .. | .unsupportedFile _ | .initializedTwice
  | .optionsIgnored _ => .warning
  | _ => .info

/-- The wording of a notice. -/
def message : Notice → String
  | .preferencesLoaded path => "Loaded preferences from " ++ path.display
  | .projectRoot path => "Project root: " ++ path.display
  | .malformedConfig path error => "Failed to parse " ++ path.display ++ ": " ++ error.message
  | .ignoredConfig path kind =>
      "Ignoring " ++ path.display ++ ": expected a JSON object, found " ++ kind
  | .unsupportedFile path => "Skipping unsupported file: " ++ path.display
  | .serverStarting => "markuphint LSP server starting..."
  | .serverInitializing => "markuphint LSP server initializing..."
  | .serverShuttingDown => "markuphint LSP server shutting down..."
  | .shutdownRequested => "shutdown request received, shutting down"
  | .exitRequested => "exit notification received, stopping"
  | .initializedTwice => "received duplicate `initialize` request, ignoring"
  | .optionsIgnored error => "Ignoring invalid initializationOptions: " ++ error.message
  | .preferencesChanged selected => "Preferences changed: " ++ selected.name
  | .engineChosen program => "Using engine command: " ++ program
  | .configurationChanged => "Configuration file changed, re-linting open documents..."
  | .scanFailed source uri error =>
      source ++ " failed on " ++ uri.text ++ ": " ++ error.message

/-- The written form, with the level in front. -/
def line (notice : Notice) : String :=
  let level := match notice.level with
    | .info => "INFO "
    | .warning => "WARN "
  level ++ notice.message

end Notice

/-- The notices of reading some configuration files in turn, up to the first malformed one. -/
def RcFile.noticesOfReading (files : FileTree) (root : Path) : List RcFile → List Notice
  | [] => []
  | file :: rest =>
      let path := root.join (Path.ofString file.fileName)
      match RcFile.inspect files path with
      | .malformed error => [.malformedConfig path error]
      | .notObject kind => .ignoredConfig path kind :: noticesOfReading files root rest
      | .absent | .overrides _ => noticesOfReading files root rest

/-- The notices of resolving the ruleset of an adapter. -/
def Adapter.notices (adapter : Adapter) (files : FileTree) (workspace : Workspace) :
    List Notice :=
  match workspace.root with
  | none => []
  | some root => RcFile.noticesOfReading files root adapter.consulted

end MarkupLint
