import MarkupLint.Proofs.Finding
import MarkupLint.Proofs.Json.Parts

/-!
# Written findings

A finding is written as an object of its parts, absent parts left out except for the line.  The
order of the members does not matter: whatever it is, the object decodes to the finding that was
written, and it reads back from its text.
-/

namespace MarkupLint

namespace RuleRef

/-- The parts of a rule in their order. -/
def parts (rule : RuleRef) : List (String × Option Json) :=
  [("id", some (.string rule.id)), ("description", rule.description.map .string),
    ("link", rule.link.map .string)]

/-- A written rule: an object of its parts. -/
def IsWritten (rule : RuleRef) (value : Json) : Prop := Json.IsObjectOf rule.parts value

theorem keys_parts (rule : RuleRef) :
    rule.parts.map Prod.fst = ["id", "description", "link"] := rfl

theorem isWritten_toJson (rule : RuleRef) : IsWritten rule rule.toJson :=
  Json.isObjectOf_ofOptionalMembers (by rw [keys_parts]; decide)

theorem IsWritten.decode_eq_ok {rule : RuleRef} {value : Json} (written : IsWritten rule value) :
    decode value = .ok rule := by
  obtain ⟨stated, read, found⟩ := Json.IsObjectOf.exists_fields written
    (by rw [keys_parts]; decide) "RuleRef"
  rw [keys_parts] at read found
  have id : stated.required "id" Json.decodeString = .ok rule.id :=
    Json.Fields.required_eq_ok.mpr ⟨_, found "id" (by decide), rfl⟩
  have description : stated.optional "description" Json.decodeString = .ok rule.description :=
    Json.Fields.optional_of_lookup (found "description" (by decide))
      (Json.optionRel_decodeString _)
  have link : stated.optional "link" Json.decodeString = .ok rule.link :=
    Json.Fields.optional_of_lookup (found "link" (by decide)) (Json.optionRel_decodeString _)
  simp only [decode, read, id, description, link, bind, Except.bind, pure, Except.pure]

theorem IsWritten.isPlain {rule : RuleRef} {value : Json} (written : IsWritten rule value) :
    Json.IsPlain 1 value := by
  apply Json.IsObjectOf.isPlain written
  rintro part inside stated present
  simp only [parts, List.mem_cons, List.not_mem_nil, or_false] at inside
  rcases inside with rfl | rfl | rfl
  · cases present
    exact .string rule.id
  · obtain ⟨text, _, rfl⟩ := Option.map_eq_some_iff.mp present
    exact .string text
  · obtain ⟨text, _, rfl⟩ := Option.map_eq_some_iff.mp present
    exact .string text

theorem optionRel_decode {rule : Option RuleRef} {value : Option Json}
    (written : Option.Rel IsWritten rule value) :
    Option.Rel (fun value result => decode value = .ok result ∧ value ≠ .null) value rule := by
  cases written with
  | none => exact .none
  | some here =>
      refine .some ⟨here.decode_eq_ok, ?_⟩
      rintro rfl
      exact absurd (Json.IsObjectOf.isObject here) (by decide)

end RuleRef

namespace Finding

/-- The parts of a finding in their order, its rule in a written form. -/
def parts (finding : Finding) (rule : Option Json) : List (String × Option Json) :=
  [("line", some ((finding.line.map fun line => Json.ofNat line.toNat).getD .null)),
    ("col", some (.ofNat finding.column.toNat)),
    ("message", some (.string finding.message)),
    ("type", some (.string finding.tag)),
    ("rule", rule),
    ("evidence", finding.evidence.map .string),
    ("raw", finding.raw.map .string)]

/-- A written finding: an object of its parts, its rule written likewise. -/
def IsWritten (finding : Finding) (value : Json) : Prop :=
  ∃ rule, Option.Rel RuleRef.IsWritten finding.rule rule ∧
    Json.IsObjectOf (finding.parts rule) value

variable {finding : Finding} {value : Json}

theorem keys_parts (finding : Finding) (rule : Option Json) :
    (finding.parts rule).map Prod.fst = fieldNames := rfl

theorem isWritten_toJson (finding : Finding) : IsWritten finding finding.toJson := by
  refine ⟨finding.rule.map RuleRef.toJson, ?_, ?_⟩
  · cases finding.rule with
    | none => exact .none
    | some rule => exact .some rule.isWritten_toJson
  · exact Json.isObjectOf_ofOptionalMembers (by rw [keys_parts]; decide)

theorem lenientUInt32?_ofNat_toNat (word : UInt32) :
    lenientUInt32? (.ofNat word.toNat) = some word :=
  lenientUInt32?_eq_some.mpr rfl

theorem lenientUInt32?_line (line : Option UInt32) :
    lenientUInt32? ((line.map fun line => Json.ofNat line.toNat).getD .null) = line := by
  cases line with
  | none => rfl
  | some line => exact lenientUInt32?_ofNat_toNat line

/-- A written finding decodes to the finding. -/
theorem IsWritten.decode_eq_ok (written : IsWritten finding value) :
    decode value = .ok finding := by
  obtain ⟨rule, ruleWritten, object⟩ := written
  obtain ⟨stated, read, found⟩ := object.exists_fields (by rw [keys_parts]; decide) "Finding"
  rw [keys_parts] at read found
  have line : (stated.lookup "line").bind lenientUInt32? = finding.line := by
    have part : ((finding.parts rule).lookup "line").join =
        some ((finding.line.map fun line => Json.ofNat line.toNat).getD .null) := rfl
    rw [found "line" (by decide), part, Option.bind_some, lenientUInt32?_line]
  have column : (stated.lookup "col").bind lenientUInt32? = some finding.column := by
    have part : ((finding.parts rule).lookup "col").join =
        some (.ofNat finding.column.toNat) := rfl
    rw [found "col" (by decide), part, Option.bind_some, lenientUInt32?_ofNat_toNat]
  have message : (stated.lookup "message").bind lenientString? = some finding.message := by
    rw [found "message" (by decide)]
    rfl
  have tag : (stated.lookup "type").bind lenientString? = some finding.tag := by
    rw [found "type" (by decide)]
    rfl
  refine Finding.decode_eq_ok.mpr ⟨stated, read, ?_, ?_, ?_, line.symm, ?_, ?_, ?_⟩
  · exact Json.Fields.optional_of_lookup (found "rule" (by decide))
      (RuleRef.optionRel_decode ruleWritten)
  · exact Json.Fields.optional_of_lookup (found "evidence" (by decide))
      (Json.optionRel_decodeString _)
  · exact Json.Fields.optional_of_lookup (found "raw" (by decide)) (Json.optionRel_decodeString _)
  · rw [column, Option.getD_some]
  · rw [message, Option.getD_some]
  · rw [tag, Option.getD_some]

theorem IsWritten.isPlain (written : IsWritten finding value) : Json.IsPlain 2 value := by
  obtain ⟨line, column, message, tag, ruleRef, evidence, raw⟩ := finding
  obtain ⟨rule, ruleWritten, object⟩ := written
  apply object.isPlain
  rintro part inside stated present
  simp only [parts, List.mem_cons, List.not_mem_nil, or_false] at inside
  rcases inside with rfl | rfl | rfl | rfl | rfl | rfl | rfl
  · cases present
    cases line with
    | none => exact .null
    | some line => exact Json.isPlain_ofNat_toNat line 1
  · cases present
    exact Json.isPlain_ofNat_toNat column 1
  · cases present
    exact .string message
  · cases present
    exact .string tag
  · cases ruleWritten with
    | none => cases present
    | some here =>
        cases present
        exact here.isPlain
  · obtain ⟨text, _, rfl⟩ := Option.map_eq_some_iff.mp present
    exact .string text
  · obtain ⟨text, _, rfl⟩ := Option.map_eq_some_iff.mp present
    exact .string text

/-- A written finding does not state messages, as a report would. -/
theorem IsWritten.get?_messages (written : IsWritten finding value) :
    value.get? "messages" = none := by
  obtain ⟨rule, _, object⟩ := written
  exact object.get?_eq_none (by rw [keys_parts]; decide)

theorem IsWritten.isObject (written : IsWritten finding value) : value.isObject := by
  obtain ⟨rule, _, object⟩ := written
  exact object.isObject

end Finding

end MarkupLint
