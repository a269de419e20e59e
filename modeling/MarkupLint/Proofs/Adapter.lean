import MarkupLint.Service

/-!
# What a scan depends on

Of all files a scan sees only what the configuration files of its adapter have to say.
-/

namespace MarkupLint

variable {first second : World} {workspace : Workspace}

namespace Adapter

theorem resolveRuleset_congr (adapter : Adapter)
    (alike : ∀ file ∈ adapter.consulted,
      file.load first.files workspace.root = file.load second.files workspace.root) :
    adapter.resolveRuleset first.files workspace =
      adapter.resolveRuleset second.files workspace := by
  cases adapter with
  | html =>
      have scripts := alike .jsHint (by decide)
      have styles := alike .cssLint (by decide)
      have overrides := alike .htmlHint (by decide)
      simp only [resolveRuleset, scripts, styles, overrides]
  | xml =>
      have overrides := alike .xmlHint (by decide)
      simp only [resolveRuleset, overrides]

/-- An engine that ignores the world gives the same scan wherever the files that the adapter
consults have the same to say. -/
theorem scan_congr (adapter : Adapter) {engines : EngineSet}
    (ignores : (adapter.engine engines).IgnoresWorld)
    (alike : ∀ file ∈ adapter.consulted,
      file.load first.files workspace.root = file.load second.files workspace.root)
    (text : String) :
    adapter.scan engines first workspace text = adapter.scan engines second workspace text := by
  simp only [scan, resolveRuleset_congr adapter alike, ignores first second]

end Adapter

theorem LintService.scan_congr (service : LintService)
    (html : service.engines.html.IgnoresWorld) (xml : service.engines.xml.IgnoresWorld)
    (alike : ∀ file : RcFile,
      file.load first.files workspace.root = file.load second.files workspace.root)
    (text : String) (path : Path) :
    service.scan first workspace text path = service.scan second workspace text path := by
  unfold LintService.scan
  cases service.adapterFor? path with
  | none => rfl
  | some adapter =>
      have ignores : (adapter.engine service.engines).IgnoresWorld := by
        cases adapter with
        | html => exact html
        | xml => exact xml
      simp only [adapter.scan_congr ignores fun file _ => alike file]

end MarkupLint
