import MarkupLint.Engine.Basic
import MarkupLint.Json.Merge
import MarkupLint.Preferences.Store
import MarkupLint.RcFile
/-!
# Adapters

An adapter lints one kind of document: it builds the ruleset from the default options and the
project's configuration files, asks its engine once, and translates the findings. A malformed
configuration file ends a scan before the engine is asked.
-/

namespace MarkupLint

/-- What the adapters share: the preferences and the root of the open project. -/
structure Workspace where
  preferences : PreferenceStore
  root : Option Path
deriving DecidableEq, Repr

namespace Workspace

/-- The workspace with built-in preferences and no project. -/
def initial : Workspace := ⟨.builtin, none⟩

/-- Open another project, or close it. -/
def setRoot (workspace : Workspace) (root : Option Path) : Workspace :=
  { workspace with root }

/-- Replace the options of a namespace. -/
def setPreference (workspace : Workspace) (selected : Namespace) (options : Json) : Workspace :=
  { workspace with preferences := workspace.preferences.set selected options }

/-- Apply a settings document to the preferences. -/
def applySettings (workspace : Workspace) (settings : Json) :
    Except LintError (Workspace × List Namespace) :=
  (workspace.preferences.apply settings).map fun (preferences, changed) =>
    ({ workspace with preferences }, changed)

end Workspace

/-- A request to an engine. -/
structure EngineCall where
  text : String
  ruleset : Json
deriving DecidableEq, Repr

/-- A scan: the requests made to the engine, in order, and the result. -/
structure ScanRun where
  calls : List EngineCall
  result : Except LintError (Option ScanResult)

/-- The kind of document that an adapter lints. -/
inductive Adapter where
  | html
  | xml
deriving DecidableEq, Repr

namespace Adapter

/-- The name of the adapter, which is the source of its diagnostics. -/
def name : Adapter → String
  | .html => "HTMLHint"
  | .xml => "XMLHint"

/-- The section of a ruleset with the options for scripts. -/
def scriptKey : String := "jshint"

/-- The section of a ruleset with the options for styles. -/
def styleKey : String := "csslint"

/-- The engine that the adapter asks. -/
def engine : Adapter → EngineSet → Engine
  | .html, engines => engines.html
  | .xml, engines => engines.xml

/-- The default options with the overrides of a configuration file. -/
def layered (defaults : Json) (overrides : Option Json) : Json :=
  Json.mergeLayers (defaults :: overrides.toList)

/-- The ruleset for HTML from the preferences and the overrides of the three files: the sections
for scripts and styles take the place of any in the defaults, and the HTML overrides come last and
may reach into both sections. -/
def htmlRuleset (preferences : PreferenceStore) (scripts styles overrides : Option Json) : Json :=
  let defaults := Json.mergeLayers [preferences.get .htmlHint]
  let withScripts := defaults.set scriptKey (layered (preferences.get .jsHint) scripts)
    (Json.isObject_mergeLayers _)
  let withStyles := withScripts.set styleKey (layered (preferences.get .cssLint) styles)
    (Json.isObject_set ..)
  match overrides with
  | some overrides => withStyles.merge overrides
  | none => withStyles

/-- The ruleset for XML from the preferences and the overrides of its file. -/
def xmlRuleset (preferences : PreferenceStore) (overrides : Option Json) : Json :=
  layered (preferences.get .xmlHint) overrides

/-- The ruleset that a scan would use now; the first malformed file in the order of reading is
the error. -/
def resolveRuleset (adapter : Adapter) (files : FileTree) (workspace : Workspace) :
    Except LintError Json :=
  match adapter with
  | .html => do
      let scripts ← RcFile.jsHint.load files workspace.root
      let styles ← RcFile.cssLint.load files workspace.root
      let overrides ← RcFile.htmlHint.load files workspace.root
      return htmlRuleset workspace.preferences scripts styles overrides
  | .xml => do
      let overrides ← RcFile.xmlHint.load files workspace.root
      return xmlRuleset workspace.preferences overrides

/-- The files that the adapter reads, in the order of reading. -/
def consulted : Adapter → List RcFile
  | .html => [.jsHint, .cssLint, .htmlHint]
  | .xml => [.xmlHint]

/-- What an engine's verdict means for a scan. -/
def resultOfVerdict : Verdict → Except LintError (Option ScanResult)
  | .findings found => .ok (Finding.translate found)
  | .failed error => .error error
  | .crashed => .error (.internal .engineCrashed)

/-- Scan a text. -/
def scan (adapter : Adapter) (engines : EngineSet) (world : World) (workspace : Workspace)
    (text : String) : ScanRun :=
  match adapter.resolveRuleset world.files workspace with
  | .error error => ⟨[], .error error⟩
  | .ok ruleset =>
      ⟨[⟨text, ruleset⟩],
        resultOfVerdict ((adapter.engine engines).verify world text ruleset)⟩

end Adapter

end MarkupLint
