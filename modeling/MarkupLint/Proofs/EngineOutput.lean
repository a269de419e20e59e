import MarkupLint.EngineOutput
import MarkupLint.Proofs.Finding

/-!
# Output in the form of a reporter

A reporter prints a list of reports, each with a list of messages.  As long as every message
decodes as a finding, each of them becomes the finding at its place and keeps its line.  One message
that does not decode makes the whole document fall back to the other form, in which a report is a
finding of its own: nothing of the messages is left then, and the output is accepted all the same.
This file states exactly when the messages survive.
-/

namespace MarkupLint.EngineOutput

open Json (Decoded)

/-- The reports of a reporter: objects that each state a list of objects as their messages. -/
def IsReporter (reports : List Json) (messages : List (List Json)) : Prop :=
  List.Forall₂ (fun report stated => report.get? "messages" = some (.array stated) ∧
    ∀ message ∈ stated, message.isObject) reports messages

/-- An object states a line that an unsigned integer of 32 bits can hold. -/
def StatesLine (value : Json) (line : UInt32) : Prop :=
  value.get? "line" = some (.ofNat line.toNat)

/-- There is a finding for each message, in the same order and on the line that it states. -/
def KeepsLines (messages : List Json) (findings : List Finding) : Prop :=
  List.Forall₂ (fun message finding => ∀ line, StatesLine message line → finding.line = some line)
    messages findings

/-- A value decodes to a finding. -/
def DecodesTo (value : Json) (finding : Finding) : Prop := Finding.decode value = .ok finding

/-- Every report states its messages once, and every message is a well-formed finding. -/
def AreWellFormed (reports : List Json) (messages : List (List Json)) : Prop :=
  (∀ report ∈ reports, ∃ stated, report.fields "FileReport" ["messages"] = .ok stated) ∧
    ∀ message ∈ messages.flatten, Finding.IsWellFormed message

section Reading

variable {output : String} {document : Json}

/-- What a readable text parses to depends on its document alone. -/
theorem parse_of_read (read : Json.readRaw .whole (Text.trim output.toList) = .ok document) :
    parse output = match decode? document with
      | some findings => .ok findings
      | none => .error .unrecognised := by
  unfold parse
  cases trimmed : Text.trim output.toList with
  | nil =>
      rw [trimmed] at read
      cases read
  | cons character rest =>
      rw [trimmed] at read
      unfold Json.readRaw at read
      cases first : Json.readFirst .whole (character :: rest) with
      | error error => simp [first, bind, Except.bind] at read
      | ok outcome =>
          obtain ⟨value, after⟩ := outcome
          simp only [first, bind, Except.bind] at read
          cases ended : Json.checkEnd (character :: rest) after with
          | error error => simp [ended] at read
          | ok _ =>
              obtain rfl : value = document := by simpa [ended, pure, Except.pure] using read
              simp only [first, bind, Except.bind, Except.mapError]
              cases decode? value with
              | none => rfl
              | some findings => simp [ended, pure, Except.pure]

end Reading

section Reports

variable {reports : List Json} {messages : List (List Json)} {findings : List Finding}

theorem decodeReport_eq_ok {report : Json} {stated : List Json}
    (states : report.get? "messages" = some (.array stated)) :
    decodeReport report = .ok findings ↔
      (∃ parts, report.fields "FileReport" ["messages"] = .ok parts) ∧
        List.Forall₂ DecodesTo stated findings := by
  have isObject : report.isObject := by
    cases report <;> simp [Json.get?, Json.isObject] at states ⊢
  unfold decodeReport
  have listDecoded : List.Forall₂ DecodesTo stated findings ↔
      Json.decodeList Finding.decode (.array stated) = .ok findings := Json.mapM_eq_ok.symm
  rw [Json.Decoded.bind_eq_ok, listDecoded]
  constructor
  · rintro ⟨parts, read, decoded⟩
    obtain ⟨value, found, valueDecoded⟩ := Json.Fields.required_eq_ok.mp decoded
    rw [Json.lookup_of_fields isObject read (by decide), states] at found
    obtain rfl := Option.some.inj found
    exact ⟨⟨parts, read⟩, valueDecoded⟩
  · rintro ⟨⟨parts, read⟩, decoded⟩
    refine ⟨parts, read, Json.Fields.required_eq_ok.mpr ⟨.array stated, ?_, decoded⟩⟩
    rw [Json.lookup_of_fields isObject read (by decide), states]

/-- Well-formed reports decode to what their messages decode to, one by one. -/
theorem decodeReports_eq_ok (shape : IsReporter reports messages) :
    decodeReports (.array reports) = .ok findings ↔
      (∀ report ∈ reports, ∃ parts, report.fields "FileReport" ["messages"] = .ok parts) ∧
        List.Forall₂ DecodesTo messages.flatten findings := by
  have toGroups : decodeReports (.array reports) = .ok findings ↔
      ∃ groups, List.Forall₂ (fun report group => decodeReport report = .ok group) reports groups ∧
        groups.flatten = findings := by
    simp only [decodeReports, Json.decodeList, Json.Decoded.map_eq_ok, Json.mapM_eq_ok]
  rw [toGroups]
  clear toGroups
  induction shape generalizing findings with
  | nil => simp [eq_comm]
  | @cons report stated reports messages here later ih =>
      simp only [List.forall₂_cons_left_iff, List.forall_mem_cons, List.flatten_cons]
      constructor
      · rintro ⟨_, ⟨group, groups, decoded, others, rfl⟩, rfl⟩
        obtain ⟨once, decodedHere⟩ := (decodeReport_eq_ok here.1).mp decoded
        obtain ⟨onceLater, decodedLater⟩ := ih.mp ⟨groups, others, rfl⟩
        exact ⟨⟨once, onceLater⟩, List.rel_append decodedHere decodedLater⟩
      · rintro ⟨⟨once, onceLater⟩, decoded⟩
        obtain ⟨group, rest, decodedHere, decodedLater, rfl⟩ :=
          Json.exists_append_of_forall₂ decoded
        obtain ⟨groups, others, rfl⟩ := ih.mpr ⟨onceLater, decodedLater⟩
        exact ⟨_, ⟨group, groups, (decodeReport_eq_ok here.1).mpr ⟨once, decodedHere⟩, others, rfl⟩,
          rfl⟩

theorem exists_decodeReports_iff (shape : IsReporter reports messages) :
    (∃ findings, decodeReports (.array reports) = .ok findings) ↔
      AreWellFormed reports messages := by
  simp only [decodeReports_eq_ok shape, exists_and_left, Json.exists_forall₂_iff, DecodesTo,
    Finding.exists_decode_iff]
  rfl

/-- A document in the form of a reporter decodes message by message if all messages are well formed,
and otherwise report by report. -/
theorem decode?_eq_some_iff (shape : IsReporter reports messages) :
    decode? (.array reports) = some findings ↔
      (AreWellFormed reports messages ∧ List.Forall₂ DecodesTo messages.flatten findings) ∨
      (¬ AreWellFormed reports messages ∧ List.Forall₂ DecodesTo reports findings) := by
  rw [← exists_decodeReports_iff shape]
  unfold decode?
  cases read : decodeReports (.array reports) with
  | ok found =>
      have decoded := ((decodeReports_eq_ok shape).mp read).2
      simp only [Option.some.injEq, Except.ok.injEq, exists_eq', true_and, not_true, false_and,
        or_false]
      constructor
      · rintro rfl
        exact decoded
      · intro others
        have wellStated := ((decodeReports_eq_ok shape).mp read).1
        have again := (decodeReports_eq_ok shape).mpr ⟨wellStated, others⟩
        rw [read] at again
        exact Except.ok.inj again
  | error error =>
      have byReport : List.Forall₂ DecodesTo reports findings ↔
          Json.decodeList Finding.decode (.array reports) = .ok findings := Json.mapM_eq_ok.symm
      rw [byReport]
      cases Json.decodeList Finding.decode (.array reports) <;> simp

theorem decodeReport_ne_ok {value : Json} (isObject : value.isObject)
    (unstated : value.get? "messages" = none) (stated : List Finding) :
    decodeReport value ≠ .ok stated := by
  intro decoded
  obtain ⟨parts, read, required⟩ := Json.Decoded.bind_eq_ok.mp decoded
  obtain ⟨part, found, _⟩ := Json.Fields.required_eq_ok.mp required
  rw [Json.lookup_of_fields isObject read (by decide), unstated] at found
  cases found

/-- A list that begins with an object without messages is not taken for reports. -/
theorem decode?_of_unstated {values : List Json}
    (unstated : ∀ first ∈ values.head?, first.isObject ∧ first.get? "messages" = none)
    (decoded : List.Forall₂ DecodesTo values findings) :
    decode? (.array values) = some findings := by
  have asFindings : Json.decodeList Finding.decode (.array values) = .ok findings :=
    Json.mapM_eq_ok.mpr decoded
  unfold decode?
  cases asReports : decodeReports (.array values) with
  | error error => simp only [asFindings]
  | ok found =>
      -- Only a list without values passes for reports, and then both readings agree.
      obtain ⟨groups, groupsDecoded, joined⟩ := Json.Decoded.map_eq_ok.mp asReports
      have each := Json.mapM_eq_ok.mp groupsDecoded
      cases decoded with
      | nil =>
          obtain rfl := List.forall₂_nil_left_iff.mp each
          rw [← joined]
          rfl
      | cons _ _ =>
          obtain ⟨isObject, without⟩ := unstated _ rfl
          obtain ⟨stated, _, first, _⟩ := List.forall₂_cons_left_iff.mp each
          exact absurd first (decodeReport_ne_ok isObject without stated)

theorem IsReporter.isObject_of_mem (shape : IsReporter reports messages) {report : Json}
    (inside : report ∈ reports) : report.isObject := by
  induction shape with
  | nil => exact absurd inside List.not_mem_nil
  | @cons first _ _ _ here _ ih =>
      rcases List.mem_cons.mp inside with rfl | later
      · have states := here.1
        cases report <;> simp [Json.get?, Json.isObject] at states ⊢
      · exact ih later

theorem IsReporter.isObject_of_mem_flatten (shape : IsReporter reports messages) {message : Json}
    (inside : message ∈ messages.flatten) : message.isObject := by
  induction shape with
  | nil => exact absurd inside List.not_mem_nil
  | @cons _ stated _ _ here _ ih =>
      rcases List.mem_append.mp inside with here' | later
      · exact here.2 message here'
      · exact ih later

theorem DecodesTo.line_eq_some_iff {value : Json} {finding : Finding} {line : UInt32}
    (decoded : DecodesTo value finding) (isObject : value.isObject) :
    finding.line = some line ↔ StatesLine value line :=
  Finding.line_eq_some_iff isObject decoded

/-- Objects that state a line past zero, and no others, decode to findings that can be shown. -/
theorem translate_eq_none_iff {values : List Json} (objects : ∀ value ∈ values, value.isObject)
    (decoded : List.Forall₂ DecodesTo values findings) :
    Finding.translate findings = none ↔
      ∀ value ∈ values, ∀ line, StatesLine value line → line = 0 := by
  rw [Finding.translate_eq_none_iff]
  induction decoded with
  | nil => simp
  | cons here later ih =>
      rw [List.forall_mem_cons] at objects
      simp only [List.forall_mem_cons, ih objects.2, here.line_eq_some_iff objects.1]

/-- Findings keep the lines of some messages exactly if the objects that they come from state at
least those lines. -/
theorem keepsLines_iff {stated values : List Json} (objects : ∀ value ∈ values, value.isObject)
    (decoded : List.Forall₂ DecodesTo values findings) :
    KeepsLines stated findings ↔ List.Forall₂
      (fun message value => ∀ line, StatesLine message line → StatesLine value line)
      stated values := by
  unfold KeepsLines
  induction decoded generalizing stated with
  | nil => simp
  | cons here later ih =>
      rw [List.forall_mem_cons] at objects
      simp only [List.forall₂_cons_right_iff, ih objects.2, here.line_eq_some_iff objects.1]

end Reports

section Acceptance

variable {output : String} {reports : List Json} {messages : List (List Json)}
  {findings : List Finding}

theorem parse_eq_ok_iff
    (read : Json.readRaw .whole (Text.trim output.toList) = .ok (.array reports))
    (shape : IsReporter reports messages) :
    parse output = .ok findings ↔
      (AreWellFormed reports messages ∧ List.Forall₂ DecodesTo messages.flatten findings) ∨
      (¬ AreWellFormed reports messages ∧ List.Forall₂ DecodesTo reports findings) := by
  rw [← decode?_eq_some_iff shape, parse_of_read read]
  cases decode? (.array reports) <;> simp

/-- Reports that are not well formed are rejected exactly if one of them could not be a finding
itself. -/
theorem exists_parse_iff_of_malformed
    (read : Json.readRaw .whole (Text.trim output.toList) = .ok (.array reports))
    (shape : IsReporter reports messages) (malformed : ¬ AreWellFormed reports messages) :
    (∃ findings, parse output = .ok findings) ↔
      ∀ report ∈ reports, Finding.IsWellFormed report := by
  simp only [parse_eq_ok_iff read shape, malformed, false_and, false_or, not_false_eq_true,
    true_and, Json.exists_forall₂_iff, DecodesTo, Finding.exists_decode_iff]

/-- The messages of a readable reporter output survive exactly if all of them are well formed, or
the output is rejected, or each report happens to state itself the line of the message at its
place.  An output with a message on a line past zero is never taken for a clean one exactly if all
messages are well formed, or it is rejected, or some report states itself a line past zero. -/
theorem reporter_kept_iff
    (read : Json.readRaw .whole (Text.trim output.toList) = .ok (.array reports))
    (shape : IsReporter reports messages) :
    ((∀ findings, parse output = .ok findings → KeepsLines messages.flatten findings) ↔
      AreWellFormed reports messages ∨ (∃ report ∈ reports, ¬ Finding.IsWellFormed report) ∨
        List.Forall₂ (fun message report => ∀ line, StatesLine message line →
          StatesLine report line) messages.flatten reports) ∧
    ((∃ message ∈ messages.flatten, ∃ line, line ≠ 0 ∧ StatesLine message line) →
      ((∀ findings, parse output = .ok findings → Finding.translate findings ≠ none) ↔
        AreWellFormed reports messages ∨ (∃ report ∈ reports, ¬ Finding.IsWellFormed report) ∨
          ∃ report ∈ reports, ∃ line, line ≠ 0 ∧ StatesLine report line)) := by
  have reportObjects : ∀ report ∈ reports, report.isObject := fun _ => shape.isObject_of_mem
  have messageObjects : ∀ message ∈ messages.flatten, message.isObject :=
    fun _ => shape.isObject_of_mem_flatten
  by_cases wellFormed : AreWellFormed reports messages
  · simp only [parse_eq_ok_iff read shape, wellFormed, not_true, false_and, or_false, true_and,
      true_or, iff_true]
    constructor
    · intro findings decoded
      rw [keepsLines_iff messageObjects decoded]
      exact List.forall₂_same.mpr fun _ _ _ => id
    · rintro ⟨message, inside, line, positive, states⟩ findings decoded clean
      exact positive
        ((translate_eq_none_iff messageObjects decoded).mp clean message inside line states)
  · by_cases acceptable : ∀ report ∈ reports, Finding.IsWellFormed report
    · obtain ⟨findings, accepted⟩ :=
        (exists_parse_iff_of_malformed read shape wellFormed).mpr acceptable
      have noneRejected : ¬ ∃ report ∈ reports, ¬ Finding.IsWellFormed report := by
        rintro ⟨report, inside, bad⟩
        exact bad (acceptable report inside)
      have decoded : List.Forall₂ DecodesTo reports findings := by
        simpa [parse_eq_ok_iff read shape, wellFormed] using accepted
      have only : ∀ other, parse output = .ok other ↔ other = findings := by
        intro other
        rw [accepted, Except.ok.injEq, eq_comm]
      simp only [only, forall_eq, wellFormed, noneRejected, false_or]
      refine ⟨keepsLines_iff reportObjects decoded, fun _ => ?_⟩
      rw [ne_eq, translate_eq_none_iff reportObjects decoded]
      push Not
      simp only [and_comm]
    · have rejected : ∀ findings, parse output ≠ .ok findings := fun findings accepted =>
        acceptable ((exists_parse_iff_of_malformed read shape wellFormed).mp ⟨findings, accepted⟩)
      have oneRejected : ∃ report ∈ reports, ¬ Finding.IsWellFormed report := by
        push Not at acceptable
        exact acceptable
      simp [rejected, oneRejected]

theorem eq_ok_of_toOption {ε α : Type} {result : Except ε α} {value : α}
    (succeeds : result.toOption = some value) : result = .ok value := by
  cases result with
  | ok found => exact congrArg Except.ok (Option.some.inj succeeds)
  | error error => cases succeeds

/-- A report of one error keeps it. -/
theorem reporter_kept_one_error :
    ∃ reports messages,
      Json.readRaw .whole (Text.trim
        "[\x7b\"messages\":[\x7b\"line\":1,\"type\":\"error\"\x7d]\x7d]".toList) =
          .ok (.array reports) ∧
      IsReporter reports messages ∧
      (∃ message ∈ messages.flatten, StatesLine message 1) ∧
      ∀ findings, parse "[\x7b\"messages\":[\x7b\"line\":1,\"type\":\"error\"\x7d]\x7d]" =
        .ok findings → KeepsLines messages.flatten findings := by
  let message : Json := .object [("line", .ofNat 1), ("type", .string "error")]
  have read : Json.readRaw .whole (Text.trim
      "[\x7b\"messages\":[\x7b\"line\":1,\"type\":\"error\"\x7d]\x7d]".toList) =
        .ok (.array [.object [("messages", .array [message])]]) :=
    eq_ok_of_toOption (by decide +kernel)
  have shape : IsReporter [.object [("messages", .array [message])]] [[message]] :=
    .cons ⟨by rfl, by simp [message, Json.isObject]⟩ .nil
  have wellFormed := (exists_decodeReports_iff shape).mp
    ⟨[⟨some 1, 0, "", "error", none, none, none⟩], by rfl⟩
  exact ⟨_, _, read, shape, ⟨message, by simp, by rfl⟩,
    (reporter_kept_iff read shape).1.mpr (Or.inl wellFormed)⟩

/-- A report whose only message has a number for its rule is taken for a clean document: the line of
the message is lost. -/
theorem reporter_with_mistyped_rule_reads_clean :
    ∃ reports messages findings,
      Json.readRaw .whole (Text.trim
        "[\x7b\"messages\":[\x7b\"line\":1,\"rule\":5\x7d]\x7d]".toList) =
          .ok (.array reports) ∧
      IsReporter reports messages ∧
      parse "[\x7b\"messages\":[\x7b\"line\":1,\"rule\":5\x7d]\x7d]" = .ok findings ∧
      (∃ message ∈ messages.flatten, StatesLine message 1) ∧
      ¬ KeepsLines messages.flatten findings ∧ Finding.translate findings = none := by
  let message : Json := .object [("line", .ofNat 1), ("rule", .ofNat 5)]
  refine ⟨[.object [("messages", .array [message])]], [[message]],
    [⟨none, 0, "", "warning", none, none, none⟩], eq_ok_of_toOption (by decide +kernel), ?_,
    eq_ok_of_toOption (by decide +kernel), ⟨message, by simp, by rfl⟩,
    ?_, by rfl⟩
  · exact .cons ⟨by rfl, by simp [message, Json.isObject]⟩ .nil
  · intro kept
    obtain ⟨keptLine, _⟩ := List.forall₂_cons.mp kept
    cases keptLine 1 (by rfl)

end Acceptance

end MarkupLint.EngineOutput
