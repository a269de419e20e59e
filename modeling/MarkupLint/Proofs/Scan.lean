import MarkupLint.Proofs.RcFile
import MarkupLint.Adapter
import Mathlib.Control.Monad.Basic

/-!
# From the configuration files to the result of a scan

An adapter loads its files one after the other, and the first one that fails to load ends the scan
before the engine is asked.  If all of them load, the engine is asked once, with the ruleset that
is resolved from them, and what it makes of the text is handed on.
-/

namespace MarkupLint

namespace RcFile

/-- Whether a file loads, be it with overrides or without. -/
def Loads (file : RcFile) (files : FileTree) (root : Option Path) : Prop :=
  ∃ overrides, file.load files root = .ok overrides

/-- Whether a file is the first of several that fails to load, and with which error. -/
inductive FailsFirst (files : FileTree) (root : Option Path) (file : RcFile)
    (error : LintError) : List RcFile → Prop where
  | here {rest : List RcFile} (fails : file.load files root = .error error) :
      FailsFirst files root file error (file :: rest)
  | later {earlier : RcFile} {rest : List RcFile} (loads : earlier.Loads files root)
      (first : FailsFirst files root file error rest) :
      FailsFirst files root file error (earlier :: rest)

variable {files : FileTree} {root : Option Path} {file : RcFile} {error : LintError}

theorem FailsFirst.load_eq {consulted : List RcFile}
    (first : FailsFirst files root file error consulted) :
    file.load files root = .error error := by
  induction first with
  | here fails => exact fails
  | later _ _ ih => exact ih

theorem exists_failsFirst_of_not_loads {consulted : List RcFile} (inside : file ∈ consulted)
    (fails : ¬ file.Loads files root) :
    ∃ first error, FailsFirst files root first error consulted := by
  induction consulted with
  | nil => cases inside
  | cons earlier rest ih =>
      cases loaded : earlier.load files root with
      | error error => exact ⟨earlier, error, .here loaded⟩
      | ok overrides =>
          have loads : earlier.Loads files root := ⟨overrides, loaded⟩
          rcases List.mem_cons.mp inside with rfl | inside
          · exact absurd loads fails
          · obtain ⟨first, error, failsFirst⟩ := ih inside
            exact ⟨first, error, .later loads failsFirst⟩

end RcFile

/-- Whether a run ends in an error without asking the engine. -/
def ScanRun.FailsUnasked (run : ScanRun) : Prop :=
  run.calls = [] ∧ ∃ error, run.result = .error error

namespace Adapter

open RcFile (Loads FailsFirst)

variable {adapter : Adapter} {files : FileTree} {workspace : Workspace} {file : RcFile}
  {error : LintError}

theorem resolveRuleset_of_failsFirst
    (first : FailsFirst files workspace.root file error adapter.consulted) :
    adapter.resolveRuleset files workspace = .error error := by
  cases adapter with
  | html =>
      simp only [resolveRuleset]
      cases first with
      | here fails => rw [fails]; rfl
      | later scripts first =>
          obtain ⟨scripts, scriptsLoaded⟩ := scripts
          rw [scriptsLoaded]
          cases first with
          | here fails => simp only [fails]; rfl
          | later styles first =>
              obtain ⟨styles, stylesLoaded⟩ := styles
              rw [stylesLoaded]
              cases first with
              | here fails => simp only [fails]; rfl
              | later _ first => cases first
  | xml =>
      cases first with
      | here fails => simp only [resolveRuleset, fails]; rfl
      | later _ first => cases first

theorem exists_resolveRuleset_of_loads
    (loads : ∀ file ∈ adapter.consulted, file.Loads files workspace.root) :
    ∃ ruleset, adapter.resolveRuleset files workspace = .ok ruleset := by
  cases adapter with
  | html =>
      obtain ⟨scripts, scriptsLoaded⟩ := loads .jsHint (by decide)
      obtain ⟨styles, stylesLoaded⟩ := loads .cssLint (by decide)
      obtain ⟨overrides, overridesLoaded⟩ := loads .htmlHint (by decide)
      simp only [resolveRuleset, scriptsLoaded, stylesLoaded, overridesLoaded]
      exact ⟨_, rfl⟩
  | xml =>
      obtain ⟨overrides, loaded⟩ := loads .xmlHint (by decide)
      simp only [resolveRuleset, loaded]
      exact ⟨_, rfl⟩

variable {world : World}

theorem scan_of_fails (engines : EngineSet) (workspace : Workspace) (text : String)
    (inside : file ∈ adapter.consulted)
    (fails : file.load world.files workspace.root = .error error) :
    ∃ first error, FailsFirst world.files workspace.root first error adapter.consulted ∧
      adapter.scan engines world workspace text = ⟨[], .error error⟩ := by
  have notLoads : ¬ file.Loads world.files workspace.root := by
    rintro ⟨overrides, loaded⟩
    rw [loaded] at fails
    cases fails
  obtain ⟨first, error, failsFirst⟩ := RcFile.exists_failsFirst_of_not_loads inside notLoads
  refine ⟨first, error, failsFirst, ?_⟩
  simp only [scan, resolveRuleset_of_failsFirst failsFirst]

theorem scan_of_loads (engines : EngineSet) (workspace : Workspace) (text : String)
    (loads : ∀ file ∈ adapter.consulted, file.Loads world.files workspace.root) :
    ∃ ruleset, adapter.resolveRuleset world.files workspace = .ok ruleset ∧
      adapter.scan engines world workspace text =
        ⟨[⟨text, ruleset⟩],
          resultOfVerdict ((adapter.engine engines).verify world text ruleset)⟩ := by
  obtain ⟨ruleset, resolved⟩ := exists_resolveRuleset_of_loads loads
  refine ⟨ruleset, resolved, ?_⟩
  simp only [scan, resolved]

/-- A scan fails without asking the engine exactly if a file that the adapter consults fails. -/
theorem failsUnasked_scan_iff {engines : EngineSet} {text : String} :
    (adapter.scan engines world workspace text).FailsUnasked ↔
      ∃ file ∈ adapter.consulted, ∃ error,
        file.load world.files workspace.root = .error error := by
  constructor
  · rintro ⟨unasked, _⟩
    apply Classical.byContradiction
    intro noneFails
    have loads : ∀ file ∈ adapter.consulted, file.Loads world.files workspace.root := by
      intro file inside
      cases loaded : file.load world.files workspace.root with
      | ok overrides => exact ⟨overrides, loaded⟩
      | error error => exact absurd ⟨file, inside, error, loaded⟩ noneFails
    obtain ⟨ruleset, _, asks⟩ := scan_of_loads engines workspace text loads
    rw [asks] at unasked
    cases unasked
  · rintro ⟨file, inside, error, fails⟩
    obtain ⟨_, error, _, ends⟩ := scan_of_fails engines workspace text inside fails
    rw [ends]
    exact ⟨rfl, error, rfl⟩

/-- The first file that fails to load is the error of a scan, and the engine is not asked.  If all
files load, the engine is asked exactly once, with the ruleset that is resolved then, and its
findings are translated, its error is the error of the scan, and its crash is an internal error. -/
theorem scan_fails_first_or_asks_once (adapter : Adapter) (engines : EngineSet) (world : World)
    (workspace : Workspace) (text : String) :
    ((∃ file ∈ adapter.consulted, ∃ error, file.load world.files workspace.root = .error error) →
      ∃ first root fault, workspace.root = some root ∧
        FailsFirst world.files workspace.root first
          (.malformedConfig (root.join (Path.ofString first.fileName)) fault) adapter.consulted ∧
        adapter.scan engines world workspace text =
          ⟨[], .error (.malformedConfig (root.join (Path.ofString first.fileName)) fault)⟩) ∧
    ((∀ file ∈ adapter.consulted, ∃ overrides,
        file.load world.files workspace.root = .ok overrides) →
      ∃ ruleset, adapter.resolveRuleset world.files workspace = .ok ruleset ∧
        (adapter.scan engines world workspace text).calls = [⟨text, ruleset⟩] ∧
        (∀ found, (adapter.engine engines).verify world text ruleset = .findings found →
          (adapter.scan engines world workspace text).result = .ok (Finding.translate found)) ∧
        (∀ error, (adapter.engine engines).verify world text ruleset = .failed error →
          (adapter.scan engines world workspace text).result = .error error) ∧
        ((adapter.engine engines).verify world text ruleset = .crashed →
          (adapter.scan engines world workspace text).result =
            .error (.internal .engineCrashed))) := by
  constructor
  · rintro ⟨file, inside, error, fails⟩
    obtain ⟨first, error, failsFirst, ends⟩ :=
      scan_of_fails engines workspace text inside fails
    obtain ⟨root, _, fault, opened, _, _, _, rfl⟩ := RcFile.load_eq_error_iff.mp failsFirst.load_eq
    exact ⟨first, root, fault, opened, failsFirst, ends⟩
  · intro loads
    obtain ⟨ruleset, resolved, asks⟩ := scan_of_loads engines workspace text loads
    rw [asks]
    refine ⟨ruleset, resolved, rfl, ?_, ?_, ?_⟩
    · intro found verdict
      rw [verdict, resultOfVerdict]
    · intro error verdict
      rw [verdict, resultOfVerdict]
    · intro verdict
      rw [verdict, resultOfVerdict]

/-- Behind a file for scripts that loads, the malformed file for styles ends a scan of HTML, whatever
comes after it.  A scan of XML does not consult these files and asks its engine. -/
theorem scan_fails_first_malformed_styles :
    let root := Path.ofString "/"
    let file (kind : RcFile) (text : String) : Location × FileEntry :=
      ([Octets.ofString kind.fileName], .file (Octets.ofString text) false)
    let world : World :=
      ⟨⟨[], [file .jsHint "\x7b\x7d", file .cssLint "\x7b", file .htmlHint "["]⟩, []⟩
    let workspace : Workspace := ⟨.builtin, some root⟩
    let engines : EngineSet := .shared (.ofFunction "quiet" fun _ _ => .findings [])
    html.scan engines world workspace "text" =
        ⟨[], .error (.malformedConfig (root.join (Path.ofString ".csslintrc"))
          ⟨.endInObject, 1, 1⟩)⟩ ∧
      (xml.scan engines world workspace "text").calls.length = 1 ∧
      (xml.scan engines world workspace "text").result = .ok none := by
  intro root file world workspace engines
  have scripts : RcFile.jsHint.load world.files (some root) = .ok (some (.object [])) := by
    decide +kernel
  have styles : RcFile.cssLint.load world.files (some root) =
      .error (.malformedConfig (root.join (Path.ofString ".csslintrc")) ⟨.endInObject, 1, 1⟩) := by
    decide +kernel
  have noOverrides : RcFile.xmlHint.load world.files (some root) = .ok none := by decide +kernel
  constructor
  · obtain ⟨first, folder, fault, _, failsFirst, ends⟩ :=
      (scan_fails_first_or_asks_once html engines world workspace "text").1
        ⟨.cssLint, by decide, _, styles⟩
    -- The file for scripts loads, so the next one is the first that fails.
    cases failsFirst with
    | here fails =>
        rw [scripts] at fails
        cases fails
    | later _ failsFirst =>
        cases failsFirst with
        | here fails =>
            rw [styles] at fails
            rw [ends, ← Except.error.inj fails]
        | later loads _ =>
            obtain ⟨overrides, loaded⟩ := loads
            rw [styles] at loaded
            cases loaded
  · have loads : ∀ file ∈ xml.consulted, ∃ overrides,
        file.load world.files workspace.root = .ok overrides := by
      intro file inside
      rw [List.mem_singleton.mp inside]
      exact ⟨_, noOverrides⟩
    obtain ⟨ruleset, _, asked, quiet, _⟩ :=
      (scan_fails_first_or_asks_once xml engines world workspace "text").2 loads
    rw [asked]
    exact ⟨rfl, quiet [] rfl⟩

end Adapter

end MarkupLint
