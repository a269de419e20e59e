import MarkupLint.Proofs.EngineOutput
import MarkupLint.Proofs.WrittenFinding

/-!
# Written engine output

Findings are written as a list of their own or as the messages of reports, and nothing in the output
says which.  A written finding states no messages, so a list of findings is taken for a list of
reports only if it is empty; a report states its messages, so its findings are found whatever else
stands in it.  Either way the output holds the findings that were written, however it is laid out.
-/

namespace MarkupLint

/-- Whether all characters of a text are blank. -/
def Text.IsBlank (text : String) : Prop := ∀ character ∈ text.toList, Text.isBlank character = true

theorem Text.trim_brackets {before after : List Char}
    (blankBefore : ∀ character ∈ before, Text.isBlank character = true)
    (blankAfter : ∀ character ∈ after, Text.isBlank character = true) (inner : List Char) :
    Text.trim (before ++ '[' :: (inner ++ [']']) ++ after) = '[' :: (inner ++ [']']) := by
  have front : (before ++ '[' :: (inner ++ [']']) ++ after).dropWhile Text.isBlank =
      '[' :: (inner ++ [']']) ++ after := by
    rw [List.append_assoc, List.dropWhile_append_of_pos blankBefore]
    exact List.dropWhile_cons_of_neg (by decide)
  have reversedBlank : ∀ character ∈ after.reverse, Text.isBlank character = true :=
    fun character inside => blankAfter character (List.mem_reverse.mp inside)
  have back : ('[' :: (inner ++ [']']) ++ after).reverse.dropWhile Text.isBlank =
      ('[' :: (inner ++ [']'])).reverse := by
    rw [List.reverse_append, List.dropWhile_append_of_pos reversedBlank, ← List.cons_append,
      List.reverse_append]
    exact List.dropWhile_cons_of_neg (by decide)
  rw [Text.trim, front, back, List.reverse_reverse]

namespace EngineOutput

open Json (IsPlain)

/-- A report of some findings: an object that states them, each in a written form, as its messages,
and that may have any further members. -/
def IsReportOf (findings : List Finding) (report : Json) : Prop :=
  ∃ before values after, report = .object (before ++ ("messages", .array values) :: after) ∧
    (∀ member ∈ before ++ after, member.1 ≠ "messages") ∧
    List.Forall₂ Finding.IsWritten findings values

/-- Whether the further members of a report are read back from their texts. -/
def HasPlainExtras (report : Json) : Prop :=
  ∀ members, report = .object members → ∀ member ∈ members, member.1 ≠ "messages" →
    IsPlain (Json.Reader.deepest - 2) member.2

theorem forall₂_decodesTo {findings : List Finding} {values : List Json}
    (written : List.Forall₂ Finding.IsWritten findings values) :
    List.Forall₂ DecodesTo values findings := by
  induction written with
  | nil => exact .nil
  | cons here _ ih => exact .cons here.decode_eq_ok ih

section Findings

variable {findings : List Finding} {values : List Json}

/-- Written findings are taken for findings: they are not reports, unless there are none. -/
theorem decode?_of_written (written : List.Forall₂ Finding.IsWritten findings values) :
    decode? (.array values) = some findings := by
  have unstated : ∀ first ∈ values.head?, first.isObject ∧ first.get? "messages" = none := by
    intro first inside
    cases written with
    | nil => cases inside
    | cons here _ =>
        cases inside
        exact ⟨here.isObject, here.get?_messages⟩
  exact decode?_of_unstated unstated (forall₂_decodesTo written)

theorem isPlain_of_written (written : List.Forall₂ Finding.IsWritten findings values) :
    IsPlain 3 (.array values) := by
  apply IsPlain.array
  intro value inside
  induction written with
  | nil => exact absurd inside List.not_mem_nil
  | cons here _ ih =>
      rcases List.mem_cons.mp inside with rfl | later
      · exact here.isPlain
      · exact ih later

end Findings

section Reports

variable {findings : List Finding} {report : Json}

theorem IsReportOf.decode_eq_ok (reports : IsReportOf findings report) :
    decodeReport report = .ok findings := by
  obtain ⟨before, values, after, rfl, apart, written⟩ := reports
  obtain ⟨notBefore, notAfter⟩ := List.forall_mem_append.mp apart
  have known : (before ++ ("messages", .array values) :: after).filter
      (fun member => ["messages"].contains member.1) = [("messages", .array values)] := by
    have noneBefore : before.filter (fun member => ["messages"].contains member.1) = [] := by
      simpa [List.filter_eq_nil_iff] using notBefore
    have noneAfter : after.filter (fun member => ["messages"].contains member.1) = [] := by
      simpa [List.filter_eq_nil_iff] using notAfter
    rw [List.filter_append, noneBefore, List.filter_cons_of_pos (by simp), noneAfter,
      List.nil_append]
  have fields : (Json.object (before ++ ("messages", .array values) :: after)).fields "FileReport"
      ["messages"] = .ok [("messages", .array values)] :=
    Json.fields_object_eq_ok.mpr ⟨by rw [known]; exact List.pairwise_singleton _ _, known.symm⟩
  refine Json.Decoded.bind_eq_ok.mpr ⟨_, fields, ?_⟩
  refine Json.Fields.required_eq_ok.mpr ⟨.array values, rfl, ?_⟩
  exact Json.mapM_eq_ok.mpr (forall₂_decodesTo written)

theorem IsReportOf.isPlain (reports : IsReportOf findings report)
    (extras : HasPlainExtras report) : IsPlain (Json.Reader.deepest - 1) report := by
  obtain ⟨before, values, after, rfl, apart, written⟩ := reports
  have each := extras _ rfl
  have messages : IsPlain (Json.Reader.deepest - 2) (.array values) :=
    (isPlain_of_written written).mono (by decide)
  apply IsPlain.object
  intro member inside
  rcases List.mem_append.mp inside with early | rest
  · exact each member inside (apart member (List.mem_append_left after early))
  · rcases List.mem_cons.mp rest with rfl | late
    · exact messages
    · exact each member inside (apart member (List.mem_append_right before late))

variable {groups : List (List Finding)} {reports : List Json}

/-- Reports are taken for reports, and their findings are joined. -/
theorem decode?_of_reports (shape : List.Forall₂ IsReportOf groups reports) :
    decode? (.array reports) = some groups.flatten := by
  have each : List.Forall₂ (fun report group => decodeReport report = .ok group)
      reports groups := by
    induction shape with
    | nil => exact .nil
    | cons here _ ih => exact .cons here.decode_eq_ok ih
  have asReports : decodeReports (.array reports) = .ok groups.flatten :=
    Json.Decoded.map_eq_ok.mpr ⟨groups, Json.mapM_eq_ok.mpr each, rfl⟩
  simp only [decode?, asReports]

theorem isPlain_of_reports (shape : List.Forall₂ IsReportOf groups reports)
    (extras : ∀ report ∈ reports, HasPlainExtras report) :
    IsPlain Json.Reader.deepest (.array reports) := by
  apply IsPlain.array
  intro report inside
  induction shape with
  | nil => exact absurd inside List.not_mem_nil
  | cons here _ ih =>
      rw [List.forall_mem_cons] at extras
      rcases List.mem_cons.mp inside with rfl | later
      · exact here.isPlain extras.1
      · exact ih extras.2 later

end Reports

/-- The text of a plain list holds the list, whatever blank characters stand around it. -/
theorem readRaw_surrounded {items : List Json} (plain : IsPlain Json.Reader.deepest (.array items))
    {before after : String} (blankBefore : Text.IsBlank before) (blankAfter : Text.IsBlank after) :
    Json.readRaw .whole
        (Text.trim (before ++ Json.compact (.array items) ++ after).toList) =
      .ok (.array items) := by
  have text : (before ++ Json.compact (.array items) ++ after).toList =
      before.toList ++ '[' :: (Json.printItems items ++ [']']) ++ after.toList := by
    simp [Json.compact, Json.print_array]
  rw [text, Text.trim_brackets blankBefore blankAfter]
  have read := Json.readRaw_print plain Json.Reader.areSpaces_nil
  rwa [List.append_nil, Json.print_array] at read

/-- Output in which findings are written, as they are by `Finding.toJson`, is read as those findings:
written as a list of their own, or as the messages of reports, which are joined.  It may be laid out
in any way that is read as such a list; in particular it may be printed without blanks and stand
between any blank characters. -/
theorem parse_undoes_writing :
    (∀ finding : Finding, finding.IsWritten finding.toJson) ∧
    (∀ findings values, List.Forall₂ Finding.IsWritten findings values →
      (∀ output, Json.readRaw .whole (Text.trim output.toList) = .ok (.array values) →
        parse output = .ok findings) ∧
      ∀ before after, Text.IsBlank before → Text.IsBlank after →
        parse (before ++ Json.compact (.array values) ++ after) = .ok findings) ∧
    ∀ groups reports, List.Forall₂ IsReportOf groups reports →
      (∀ output, Json.readRaw .whole (Text.trim output.toList) = .ok (.array reports) →
        parse output = .ok groups.flatten) ∧
      ((∀ report ∈ reports, HasPlainExtras report) →
        ∀ before after, Text.IsBlank before → Text.IsBlank after →
          parse (before ++ Json.compact (.array reports) ++ after) = .ok groups.flatten) := by
  refine ⟨Finding.isWritten_toJson, ?_, ?_⟩
  · intro findings values written
    have anyLayout : ∀ output,
        Json.readRaw .whole (Text.trim output.toList) = .ok (.array values) →
          parse output = .ok findings := by
      intro output read
      rw [parse_of_read read, decode?_of_written written]
    refine ⟨anyLayout, ?_⟩
    intro before after blankBefore blankAfter
    have plain : IsPlain Json.Reader.deepest (.array values) :=
      (isPlain_of_written written).mono (by decide)
    exact anyLayout _ (readRaw_surrounded plain blankBefore blankAfter)
  · intro groups reports shape
    have anyLayout : ∀ output,
        Json.readRaw .whole (Text.trim output.toList) = .ok (.array reports) →
          parse output = .ok groups.flatten := by
      intro output read
      rw [parse_of_read read, decode?_of_reports shape]
    refine ⟨anyLayout, ?_⟩
    intro extras before after blankBefore blankAfter
    exact anyLayout _ (readRaw_surrounded (isPlain_of_reports shape extras) blankBefore blankAfter)

/-- One finding, printed in a list between blanks and in the second of two reports. -/
theorem parse_undoes_writing_one_finding :
    let finding : Finding := ⟨none, 7, "m", "hint", some ⟨"r", none, none⟩, none, none⟩
    parse (" [\x7b\"col\":7,\"line\":null,\"message\":\"m\",\"rule\":" ++
        "\x7b\"id\":\"r\"\x7d,\"type\":\"hint\"\x7d]\n") = .ok [finding] ∧
    parse ("[\x7b\"messages\":[]\x7d,\x7b\"file\":\"a\",\"messages\":[\x7b\"col\":7," ++
        "\"line\":null,\"message\":\"m\",\"rule\":\x7b\"id\":\"r\"\x7d," ++
        "\"type\":\"hint\"\x7d],\"time\":2\x7d]") = .ok [finding] := by
  intro finding
  let rule : Json := .object [("id", .string "r")]
  let value : Json := .object [("col", .ofNat 7), ("line", .null), ("message", .string "m"),
    ("rule", rule), ("type", .string "hint")]
  let reports : List Json := [.object [("messages", .array [])],
    .object [("file", .string "a"), ("messages", .array [value]), ("time", .ofNat 2)]]
  have ruleWritten : RuleRef.IsWritten ⟨"r", none, none⟩ rule := ⟨_, rfl, by decide +kernel⟩
  have written : Finding.IsWritten finding value :=
    ⟨some rule, .some ruleWritten, _, rfl, by decide +kernel⟩
  have shape : List.Forall₂ IsReportOf [[], [finding]] reports :=
    .cons ⟨[], [], [], rfl, by simp, .nil⟩
      (.cons ⟨[("file", .string "a")], [value], [("time", .ofNat 2)], rfl, by simp,
        .cons written .nil⟩ .nil)
  have extras : ∀ report ∈ reports, HasPlainExtras report := by
    intro report inside members same member present other
    simp only [reports, List.mem_cons, List.not_mem_nil, or_false] at inside
    rcases inside with rfl | rfl
    · cases same
      exact absurd (congrArg Prod.fst (List.mem_singleton.mp present)) other
    · cases same
      simp only [List.mem_cons, List.not_mem_nil, or_false] at present
      rcases present with rfl | rfl | rfl
      · exact .string "a"
      · exact absurd rfl other
      · exact .integer (by decide) (by decide)
  have listText : " " ++ Json.compact (.array [value]) ++ "\n" =
      " [\x7b\"col\":7,\"line\":null,\"message\":\"m\",\"rule\":" ++
        "\x7b\"id\":\"r\"\x7d,\"type\":\"hint\"\x7d]\n" := by
    decide +kernel
  have reportsText : "" ++ Json.compact (.array reports) ++ "" =
      "[\x7b\"messages\":[]\x7d,\x7b\"file\":\"a\",\"messages\":[\x7b\"col\":7," ++
        "\"line\":null,\"message\":\"m\",\"rule\":\x7b\"id\":\"r\"\x7d," ++
        "\"type\":\"hint\"\x7d],\"time\":2\x7d]" := by
    decide +kernel
  rw [← listText, ← reportsText]
  constructor
  · exact (parse_undoes_writing.2.1 [finding] [value] (.cons written .nil)).2 " " "\n"
      (by simp [Text.IsBlank, Text.isBlank]) (by simp [Text.IsBlank, Text.isBlank])
  · exact (parse_undoes_writing.2.2 [[], [finding]] reports shape).2 extras "" ""
      (by simp [Text.IsBlank]) (by simp [Text.IsBlank])

end EngineOutput

end MarkupLint
