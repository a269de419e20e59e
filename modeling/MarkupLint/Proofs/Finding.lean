import MarkupLint.Finding
import MarkupLint.Proofs.Json.Decoding

/-!
# Decoding and translating findings

A finding decodes from an object exactly if no known part is repeated and its rule, its evidence
and its raw text are left out, null or well formed; the other parts may be anything.  Findings
translate to no result exactly if none of them has a line past zero.
-/

namespace MarkupLint

open Json (Decoded Fields)

/-- A string. -/
def Json.IsString (value : Json) : Prop := ∃ text, value = .string text

namespace RuleRef

/-- The known parts of a rule, of which the id must be a string and the others may be left out. -/
def IsWellFormed (value : Json) : Prop :=
  ∃ stated, value.fields "RuleRef" ["id", "description", "link"] = .ok stated ∧
    (∃ id, stated.lookup "id" = some (.string id)) ∧
    Fields.Permits stated "description" Json.IsString ∧ Fields.Permits stated "link" Json.IsString

theorem exists_decode_iff {value : Json} :
    (∃ rule, decode value = .ok rule) ↔ IsWellFormed value := by
  unfold decode IsWellFormed Json.IsString
  simp only [← Json.exists_decodeString_iff, ← Fields.exists_optional_iff,
    Json.Decoded.bind_eq_ok, Fields.required_eq_ok]
  constructor
  · rintro ⟨_, stated, read, id, ⟨idValue, idFound, idDecoded⟩, description, descriptionRead, link,
      linkRead, _⟩
    obtain ⟨text, rfl⟩ := Json.exists_decodeString_iff.mp ⟨id, idDecoded⟩
    exact ⟨stated, read, ⟨text, idFound⟩, ⟨description, descriptionRead⟩, link, linkRead⟩
  · rintro ⟨stated, read, ⟨id, idFound⟩, ⟨description, descriptionRead⟩, link, linkRead⟩
    exact ⟨⟨id, description, link⟩, stated, read, id, ⟨_, idFound, rfl⟩, description,
      descriptionRead, link, linkRead, rfl⟩

end RuleRef

namespace Finding

/-- The known parts of a finding, of which none is repeated and rule, evidence and raw text are
left out, null or well formed. -/
def IsWellFormed (value : Json) : Prop :=
  ∃ stated, value.fields "Finding" fieldNames = .ok stated ∧
    Fields.Permits stated "rule" RuleRef.IsWellFormed ∧
    Fields.Permits stated "evidence" Json.IsString ∧ Fields.Permits stated "raw" Json.IsString

/-- What a finding decodes to: the lenient parts from whatever is stated, the others strictly. -/
theorem decode_eq_ok {value : Json} {finding : Finding} :
    decode value = .ok finding ↔
      ∃ stated, value.fields "Finding" fieldNames = .ok stated ∧
        stated.optional "rule" RuleRef.decode = .ok finding.rule ∧
        stated.optional "evidence" Json.decodeString = .ok finding.evidence ∧
        stated.optional "raw" Json.decodeString = .ok finding.raw ∧
        finding.line = (stated.lookup "line").bind lenientUInt32? ∧
        finding.column = ((stated.lookup "col").bind lenientUInt32?).getD 0 ∧
        finding.message = ((stated.lookup "message").bind lenientString?).getD "" ∧
        finding.tag = ((stated.lookup "type").bind lenientString?).getD defaultTag := by
  unfold decode
  simp only [Json.Decoded.bind_eq_ok]
  constructor
  · rintro ⟨stated, read, rule, ruleRead, evidence, evidenceRead, raw, rawRead, same⟩
    obtain rfl := Except.ok.inj same
    exact ⟨stated, read, ruleRead, evidenceRead, rawRead, rfl, rfl, rfl, rfl⟩
  · rintro ⟨stated, read, ruleRead, evidenceRead, rawRead, line, column, message, tag⟩
    refine ⟨stated, read, _, ruleRead, _, evidenceRead, _, rawRead, ?_⟩
    rw [← line, ← column, ← message, ← tag]
    rfl

theorem exists_decode_iff {value : Json} :
    (∃ finding, decode value = .ok finding) ↔ IsWellFormed value := by
  have ruleAccepted : RuleRef.IsWellFormed = fun value => ∃ rule, RuleRef.decode value = .ok rule :=
    funext fun _ => propext RuleRef.exists_decode_iff.symm
  unfold IsWellFormed Json.IsString
  simp only [ruleAccepted, ← Json.exists_decodeString_iff, ← Fields.exists_optional_iff,
    decode_eq_ok]
  constructor
  · rintro ⟨finding, stated, read, ruleRead, evidenceRead, rawRead, _⟩
    exact ⟨stated, read, ⟨_, ruleRead⟩, ⟨_, evidenceRead⟩, _, rawRead⟩
  · rintro ⟨stated, read, ⟨rule, ruleRead⟩, ⟨evidence, evidenceRead⟩, raw, rawRead⟩
    exact ⟨⟨_, _, _, _, rule, evidence, raw⟩, stated, read, ruleRead, evidenceRead, rawRead, rfl,
      rfl, rfl, rfl⟩

theorem lenientUInt32?_eq_some {value : Json} {word : UInt32} :
    lenientUInt32? value = some word ↔ value = .ofNat word.toNat := by
  cases value with
  | number number =>
      cases number with
      | integer integer =>
          simp only [lenientUInt32?, Json.Number.toUInt32?, Json.ofNat, Json.number.injEq,
            Json.Number.integer.injEq]
          constructor
          · intro read
            split at read
            · next inRange =>
                obtain rfl := Option.some.inj read
                rw [UInt32.toNat_ofNat']
                omega
            · exact absurd read (by simp)
          · intro same
            have bound := word.toNat_lt
            rw [if_pos (by omega), same]
            simp
      | real real => simp [lenientUInt32?, Json.Number.toUInt32?, Json.ofNat]
  | _ => simp [lenientUInt32?, Json.ofNat]

/-- The line of a decoded object is the number that it states for it. -/
theorem line_eq_some_iff {value : Json} {finding : Finding} {line : UInt32}
    (isObject : value.isObject) (decoded : decode value = .ok finding) :
    finding.line = some line ↔ value.get? "line" = some (.ofNat line.toNat) := by
  obtain ⟨stated, read, _, _, _, lineRead, _⟩ := decode_eq_ok.mp decoded
  rw [lineRead, Json.lookup_of_fields isObject read (by decide)]
  cases value.get? "line" with
  | none => simp
  | some stated => simp [lenientUInt32?_eq_some]

theorem translate_eq_none_iff {findings : List Finding} :
    translate findings = none ↔
      ∀ finding ∈ findings, ∀ line, finding.line = some line → line = 0 := by
  have shown : ∀ finding : Finding, finding.toDiagnostic? = none ↔
      ∀ line, finding.line = some line → line = 0 := by
    intro finding
    unfold toDiagnostic?
    cases finding.line <;> simp
  unfold translate
  split
  · next none => simpa [List.filterMap_eq_nil_iff, shown] using none
  · next some => simpa [List.filterMap_eq_nil_iff, shown] using some

end Finding

end MarkupLint
