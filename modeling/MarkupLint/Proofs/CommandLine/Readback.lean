import MarkupLint.Proofs.CommandLine.Report
import MarkupLint.Proofs.Text.Utf8
import MarkupLint.Proofs.WrittenDiagnostic

/-!
# Reading a report back

The document report has an entry for each file, in their order.  An entry states the path, which is
the one of the file if it spells a text, and a list that decodes to the file's diagnostics.  Nothing
is lost on the way, neither the difference between no rule and a rule without a name nor the order.
-/

namespace MarkupLint

theorem Path.display_ofString (text : String) : (Path.ofString text).display = text := by
  have pieces := Utf8.pieces_ofString text
  have characters : (text.toList.map some).map (·.getD '\uFFFD') = text.toList := by
    rw [List.map_map]
    exact List.map_id text.toList
  rw [Path.display, Path.ofString, Utf8.decodeLossy, pieces, characters, String.ofList_toList]

namespace CommandLine

theorem get?_fileJson_path (file : FileResult) :
    (fileJson file).get? "path" = some (.string file.path.display) := by
  rw [fileJson, Json.get?_ofMembers (by simp)]
  rfl

/-- Whether an entry of a document report holds a file: its path if that spells a text, and the
diagnostics of its result if there is one, each with its rule or without one. -/
structure Holds (entry : Json) (file : FileResult) : Prop where
  path : ∀ text, file.path = .ofString text → entry.get? "path" = some (.string text)
  diagnostics : ∃ items, entry.get? "diagnostics" = some (.array items) ∧
    Json.decodeList Diagnostic.decode (.array items) =
      .ok (file.result.elim [] ScanResult.diagnostics) ∧
    List.Forall₂ (fun item diagnostic => item.get? "rule_id" = diagnostic.ruleId.map .string)
      items (file.result.elim [] ScanResult.diagnostics)

theorem holds_fileJson (file : FileResult) : Holds (fileJson file) file where
  path := by
    intro text spelled
    rw [get?_fileJson_path, spelled, Path.display_ofString]
  diagnostics := by
    have written := Diagnostic.forall₂_isWritten_toJson file.diagnostics
    rw [← file.diagnostics_eq]
    refine ⟨_, get?_fileJson_diagnostics file, Diagnostic.decodeList_eq_ok written, ?_⟩
    rw [List.forall₂_map_left_iff]
    exact List.forall₂_same.mpr fun diagnostic _ => diagnostic.get?_ruleId_toJson

/-- The document report is read back without loss: it is a list with an entry for each file, in
their order, and each entry holds its file.  A scan result is read back from its text in any order
of the members, printed without blanks or with a line for each part. -/
theorem report_reads_back :
    (∀ results, ∃ entries, Json.parse (report .json results) = .ok (.array entries) ∧
      List.Forall₂ Holds entries results) ∧
    ∀ result : ScanResult, result.IsWritten result.toJson ∧
      ∀ value, result.IsWritten value →
        ScanResult.decode value = .ok result ∧
        Json.readRaw ScanResult.demand value.compact.toList = .ok value ∧
        Json.readRaw ScanResult.demand value.pretty.toList = .ok value := by
  constructor
  · intro results
    refine ⟨results.map fileJson, parse_report_json results, ?_⟩
    rw [List.forall₂_map_left_iff]
    exact List.forall₂_same.mpr fun file _ => holds_fileJson file
  · intro result
    refine ⟨result.isWritten_toJson, ?_⟩
    intro value written
    obtain ⟨compact, pretty⟩ := written.readRaw_eq_ok
    exact ⟨written.decode_eq_ok, compact, pretty⟩

/-- A diagnostic without a rule, its members not in the order of their keys, and the entries of a
file with it and of a file without a result. -/
theorem report_reads_back_no_rule :
    let result : ScanResult := ⟨[⟨⟨3, 5⟩, "m", .warning, none⟩]⟩
    let value : Json := .object [("errors", .array [.object [
      ("pos", .object [("line", .ofNat 3), ("ch", .ofNat 5)]), ("message", .string "m"),
      ("type", .string "warning")]])]
    let files : List FileResult :=
      [⟨.ofString "a.html", some result⟩, ⟨.ofString "b.css", none⟩]
    result.IsWritten value ∧ ScanResult.decode value = .ok result ∧
      ∃ first second items,
        Json.parse (report .json files) = .ok (.array [first, second]) ∧
        first.get? "path" = some (.string "a.html") ∧
        second.get? "path" = some (.string "b.css") ∧
        first.get? "diagnostics" = some (.array items) ∧
        Json.decodeList Diagnostic.decode (.array items) =
          .ok [⟨⟨3, 5⟩, "m", .warning, none⟩] ∧
        second.get? "diagnostics" = some (.array []) := by
  intro result value files
  have position : Position.IsWritten ⟨3, 5⟩ (.object [("line", .ofNat 3), ("ch", .ofNat 5)]) :=
    ⟨_, rfl, .refl _⟩
  have written : result.IsWritten value :=
    ⟨_, rfl, .cons ⟨_, position, _, rfl, .refl _⟩ .nil⟩
  obtain ⟨entries, parsed, held⟩ := report_reads_back.1 files
  obtain ⟨first, _, holdsFirst, heldAfter, rfl⟩ := List.forall₂_cons_right_iff.mp held
  obtain ⟨second, _, holdsSecond, heldLast, rfl⟩ := List.forall₂_cons_right_iff.mp heldAfter
  obtain rfl := List.forall₂_nil_right_iff.mp heldLast
  obtain ⟨items, states, decoded, _⟩ := holdsFirst.diagnostics
  obtain ⟨others, statesOthers, _, noRules⟩ := holdsSecond.diagnostics
  obtain rfl := List.forall₂_nil_right_iff.mp noRules
  exact ⟨written, ((report_reads_back.2 result).2 value written).1, first, second, items, parsed,
    holdsFirst.path "a.html" rfl, holdsSecond.path "b.css" rfl, states, decoded, statesOthers⟩

end CommandLine

end MarkupLint
