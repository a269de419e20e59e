import MarkupLint.Proofs.Service
import Mathlib.Control.Monad.Basic

/-!
# What becomes of malformed configuration files

In an open project a malformed file that an adapter consults ends the scan before the engine is
asked, provided that the file holds a text.  A file with octets that are no text is malformed too,
but it overrides nothing, and the scan goes on without it.
-/

namespace MarkupLint

namespace LintService

open RcFile (IsText IsMalformed)

variable {engines : EngineSet} {world : World} {root path : Path} {contents : RcFile → Octets}
  {adapter : Adapter}

/-- With four regular files in the open project, the scan of a handled path fails without asking
the engine exactly if a malformed file that the adapter consults is a text.  If there is none, the
engine is asked, and files that are no text override nothing. -/
theorem failsUnasked_iff_malformed_text
    (regular : ∀ file : RcFile,
      world.files.readOctets (root.join (Path.ofString file.fileName)) = .ok (contents file))
    (handled : (standard engines).adapterFor? path = some adapter)
    (preferences : PreferenceStore) (text : String) :
    (((standard engines).scan world ⟨preferences, some root⟩ text path).run.FailsUnasked ↔
      ∃ file ∈ adapter.consulted, IsMalformed (contents file) ∧ IsText (contents file)) ∧
    ((∀ file ∈ adapter.consulted, IsMalformed (contents file) → ¬ IsText (contents file)) →
      ∃ ruleset, adapter.resolveRuleset world.files ⟨preferences, some root⟩ = .ok ruleset ∧
        ((standard engines).scan world ⟨preferences, some root⟩ text path).run.calls =
          [⟨text, ruleset⟩]) ∧
    ∀ file : RcFile, ¬ IsText (contents file) → file.load world.files (some root) = .ok none := by
  have run : ((standard engines).scan world ⟨preferences, some root⟩ text path).run =
      adapter.scan engines world ⟨preferences, some root⟩ text := by
    rw [scan_of_adapterFor? handled]
    rfl
  rw [run]
  refine ⟨?_, ?_, fun file noText => RcFile.load_of_not_isText (regular file) noText⟩
  · rw [Adapter.failsUnasked_scan_iff]
    exact exists_congr fun file => and_congr_right fun _ => RcFile.load_fails_iff (regular file)
  · intro passed
    have loads : ∀ file ∈ adapter.consulted, file.Loads world.files (some root) := by
      intro file inside
      cases loaded : file.load world.files (some root) with
      | ok overrides => exact ⟨overrides, loaded⟩
      | error error =>
          obtain ⟨malformed, isText⟩ := (RcFile.load_fails_iff (regular file)).mp ⟨error, loaded⟩
          exact absurd isText (passed file inside malformed)
    obtain ⟨ruleset, resolved, asks⟩ :=
      Adapter.scan_of_loads engines ⟨preferences, some root⟩ text loads
    exact ⟨ruleset, resolved, congrArg ScanRun.calls asks⟩

/-- A world whose root directory holds the four configuration files. -/
def worldOf (contents : RcFile → Octets) : World :=
  ⟨⟨[], RcFile.all.map fun file =>
    ([Octets.ofString file.fileName], .file (contents file) false)⟩, []⟩

theorem readOctets_worldOf (contents : RcFile → Octets) (file : RcFile) :
    (worldOf contents).files.readOctets
      ((Path.ofString "/").join (Path.ofString file.fileName)) = .ok (contents file) := by
  cases file <;> rfl

/-- An engine that finds nothing in any text. -/
def quietEngine : Engine := .ofFunction "quiet" fun _ _ => .findings []

/-- A lone brace ends the scan of an XML document. -/
theorem failsUnasked_lone_brace :
    let contents (file : RcFile) : Octets :=
      if file = .xmlHint then Octets.ofString "\x7b" else []
    let service := standard (.shared quietEngine)
    (∀ file : RcFile, (worldOf contents).files.readOctets
      ((Path.ofString "/").join (Path.ofString file.fileName)) = .ok (contents file)) ∧
    service.adapterFor? (Path.ofString "/a.xml") = some .xml ∧
    (service.scan (worldOf contents) ⟨.builtin, some (Path.ofString "/")⟩ "<a/>"
      (Path.ofString "/a.xml")).run.FailsUnasked := by
  intro contents service
  have handled : service.adapterFor? (Path.ofString "/a.xml") = some .xml := by decide +kernel
  have malformed : IsMalformed (contents .xmlHint) :=
    RcFile.isMalformed_ofString_iff.mpr ⟨by decide, ⟨.endInObject, 1, 1⟩, by decide +kernel⟩
  exact ⟨readOctets_worldOf contents, handled,
    (failsUnasked_iff_malformed_text (readOctets_worldOf contents) handled .builtin "<a/>").1.mpr
      ⟨.xmlHint, by decide, malformed, _, rfl⟩⟩

/-- A file with the single octet `0xFF`, which is no document and not even a text, does not end
the scan: the engine is asked with the ruleset of a project without that file. -/
theorem scan_passes_over_lone_octet :
    let contents (file : RcFile) : Octets := if file = .xmlHint then [0xFF] else []
    let service := standard (.shared quietEngine)
    (∀ file : RcFile, (worldOf contents).files.readOctets
      ((Path.ofString "/").join (Path.ofString file.fileName)) = .ok (contents file)) ∧
    service.adapterFor? (Path.ofString "/a.xml") = some .xml ∧
    RcFile.xmlHint ∈ Adapter.xml.consulted ∧ IsMalformed (contents .xmlHint) ∧
    ¬ (service.scan (worldOf contents) ⟨.builtin, some (Path.ofString "/")⟩ "<a/>"
      (Path.ofString "/a.xml")).run.FailsUnasked ∧
    service.scan (worldOf contents) ⟨.builtin, some (Path.ofString "/")⟩ "<a/>"
        (Path.ofString "/a.xml") =
      ⟨some .xml, ⟨[⟨"<a/>", .object [("doctype-first", .bool false)]⟩], .ok none⟩⟩ := by
  intro contents service
  have handled : service.adapterFor? (Path.ofString "/a.xml") = some .xml := by decide +kernel
  have noText : ¬ IsText (contents .xmlHint) := by decide +kernel
  have malformed : IsMalformed (contents .xmlHint) :=
    ⟨by decide, fun ⟨text, _, written, _⟩ => noText ⟨text, written⟩⟩
  have resolved : Adapter.xml.resolveRuleset (worldOf contents).files
      ⟨.builtin, some (Path.ofString "/")⟩ = .ok (.object [("doctype-first", .bool false)]) := by
    decide +kernel
  have passes : service.scan (worldOf contents) ⟨.builtin, some (Path.ofString "/")⟩ "<a/>"
        (Path.ofString "/a.xml") =
      ⟨some .xml, ⟨[⟨"<a/>", .object [("doctype-first", .bool false)]⟩], .ok none⟩⟩ := by
    rw [scan_of_adapterFor? handled, Adapter.scan, resolved]
    rfl
  refine ⟨readOctets_worldOf contents, handled, by decide, malformed, ?_, passes⟩
  rw [passes]
  rintro ⟨unasked, _⟩
  cases unasked

end LintService

end MarkupLint
