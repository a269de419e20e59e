import MarkupLint.Json.Decoding
import MarkupLint.Json.Reader
import MarkupLint.Process.Basic
/-!
# Engine commands

The description of an engine that is an external program. Its arguments may hold a placeholder for
the path of the file with the ruleset.
-/

namespace MarkupLint

open Json (Decoded Demand)

/-- The description of an external engine. -/
structure EngineConfig where
  program : String
  arguments : List String
deriving DecidableEq, Repr

namespace EngineConfig

/-- What stands for the path of the ruleset file. -/
def placeholder : String := "\x7bconfig\x7d"

/-- The engine that is used unless another one is named. -/
def standard : EngineConfig where
  program := "htmlhint"
  arguments := ["--config", placeholder, "--format", "json", "stdin"]

/-- The written form. -/
def toJson (config : EngineConfig) : Json :=
  .ofMembers [("command", .string config.program),
    ("args", .array (config.arguments.map .string))]

/-- What decoding looks at. -/
def demand : Demand := .record [("command", .whole), ("args", .whole)]

/-- The arguments may be left out. -/
def decode (value : Json) : Decoded EngineConfig := do
  let stated ← value.fields "EngineConfig" ["command", "args"]
  let arguments ← stated.defaulted "args" (Json.decodeList Json.decodeString) []
  let program ← stated.required "command" Json.decodeString
  return { program, arguments }

/-- The command that runs the engine with the ruleset at a path. -/
def command (config : EngineConfig) (rulesetPath : String) : Process.Command where
  program := config.program
  arguments := config.arguments.map fun argument =>
    String.intercalate rulesetPath (argument.splitOn placeholder)

end EngineConfig

end MarkupLint
