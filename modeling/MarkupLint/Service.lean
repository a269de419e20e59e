import MarkupLint.Adapter
import MarkupLint.Registry.Provider
/-!
# The lint service

The service finds the adapter for a path and scans with it. Services that differ in their engines
work on one workspace, so none of them holds any configuration of its own.
-/

namespace MarkupLint

/-- A lint service: the adapters by language, and the engines that they ask. -/
structure LintService where
  registry : ProviderRegistry Adapter
  engines : EngineSet

namespace LintService

/-- The adapters for the standard languages. -/
def standardRegistry : ProviderRegistry Adapter :=
  ((ProviderRegistry.ofLanguages .standard).register "html" .html).register "xml" .xml

/-- The service for the standard languages. -/
def standard (engines : EngineSet) : LintService := ⟨standardRegistry, engines⟩

/-- The same service with other engines. -/
def withEngines (service : LintService) (engines : EngineSet) : LintService :=
  { service with engines }

/-- The adapter for a path. -/
def adapterFor? (service : LintService) (path : Path) : Option Adapter :=
  service.registry.providerFor? path

/-- Whether an adapter handles a path. -/
def supports (service : LintService) (path : Path) : Bool := (service.adapterFor? path).isSome

/-- The name of the adapter for a path. -/
def providerName? (service : LintService) (path : Path) : Option String :=
  (service.adapterFor? path).map Adapter.name

/-- The ruleset that a scan of a language would use now. -/
def resolveRuleset (service : LintService) (files : FileTree) (workspace : Workspace)
    (languageId : String) : Except LintError Json :=
  match service.registry.provider? languageId with
  | none => .error (.internal (.noProvider languageId))
  | some adapter => adapter.resolveRuleset files workspace

/-- A scan with the service: which adapter made it, if any, and the run. -/
structure Scan where
  adapter : Option Adapter
  run : ScanRun

/-- Scan a text at a path. A path that no adapter handles is clean. -/
def scan (service : LintService) (world : World) (workspace : Workspace) (text : String)
    (path : Path) : Scan :=
  match service.adapterFor? path with
  | none => ⟨none, ⟨[], .ok none⟩⟩
  | some adapter => ⟨some adapter, adapter.scan service.engines world workspace text⟩

end LintService

end MarkupLint
