import MarkupLint.CommandLine.Report
import MarkupLint.Proofs.Json.Parts
import Mathlib.Algebra.Ring.Nat

/-!
# What a report says

The document report is read back from its text as it was built, one entry for each file.  The totals
at the end of the text report count its entries and the diagnostics that they list.
-/

namespace MarkupLint

open Json (IsReadable)

theorem Position.isReadable_toJson (position : Position) : IsReadable 1 position.toJson := by
  apply IsReadable.ofMembers
  intro member inside
  simp only [List.mem_cons, List.not_mem_nil, or_false] at inside
  rcases inside with rfl | rfl
  · exact .ofNat_toNat position.line 0
  · exact .ofNat_toNat position.character 0

theorem Diagnostic.isReadable_toJson (diagnostic : Diagnostic) :
    IsReadable 2 diagnostic.toJson := by
  apply IsReadable.ofOptionalMembers
  intro part inside stated present
  simp only [List.mem_cons, List.not_mem_nil, or_false] at inside
  rcases inside with rfl | rfl | rfl | rfl
  · cases present
    exact diagnostic.position.isReadable_toJson
  · cases present
    exact .string diagnostic.message
  · cases present
    exact .string diagnostic.severity.name
  · obtain ⟨rule, _, rfl⟩ := Option.map_eq_some_iff.mp present
    exact .string rule

namespace CommandLine

/-- A file lists what its scan found, and nothing if there was no result. -/
theorem FileResult.diagnostics_eq (file : FileResult) :
    file.diagnostics = file.result.elim [] ScanResult.diagnostics := by
  unfold diagnostics
  cases file.result <;> rfl

theorem isReadable_fileJson (file : FileResult) : IsReadable 4 (fileJson file) := by
  apply IsReadable.ofMembers
  intro member inside
  simp only [List.mem_cons, List.not_mem_nil, or_false] at inside
  rcases inside with rfl | rfl
  · exact .string file.path.display
  · apply IsReadable.array
    intro value inside
    obtain ⟨diagnostic, _, rfl⟩ := List.mem_map.mp inside
    exact diagnostic.isReadable_toJson

variable (results : List FileResult)

theorem isReadable_jsonReport : IsReadable 5 (jsonReport results) := by
  apply IsReadable.array
  intro entry inside
  obtain ⟨file, _, rfl⟩ := List.mem_map.mp inside
  exact isReadable_fileJson file

/-- The document report is read back as it was built. -/
theorem parse_report_json : Json.parse (report .json results) = .ok (jsonReport results) := by
  have text : report .json results = (jsonReport results).pretty ++ "\n" := by
    simp [report, unlines, String.join]
  have spaces : Json.Reader.AreSpaces "\n".toList := by
    intro character inside
    rw [List.mem_singleton.mp inside]
    rfl
  have readable := (isReadable_jsonReport results).mono (by decide : 5 ≤ Json.Reader.deepest)
  rw [text, readable.parse_pretty spaces]

theorem get?_fileJson_diagnostics (file : FileResult) :
    (fileJson file).get? "diagnostics" =
      some (.array (file.diagnostics.map Diagnostic.toJson)) := by
  rw [fileJson, Json.get?_ofMembers (by simp)]
  rfl

end CommandLine

end MarkupLint
