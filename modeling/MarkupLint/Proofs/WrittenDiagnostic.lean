import MarkupLint.Diagnostic
import MarkupLint.Proofs.Json.Demand

/-!
# Written diagnostics

A scan result is written as an object with the list of its diagnostics, and these as objects of
their parts, an absent rule left out.  In whatever order the members stand, the objects decode to
what was written, so a rule that is absent is not mistaken for one that is there.
-/

namespace MarkupLint

theorem Severity.decode_toJson (severity : Severity) : decode severity.toJson = .ok severity := by
  cases severity <;> rfl

theorem Json.decodeUInt32_eq_ok {value : Int} {word : UInt32}
    (fits : (Json.Number.integer value).toUInt32? = some word) :
    Json.decodeUInt32 (.number (.integer value)) = .ok word := by
  rw [Json.decodeUInt32, fits]

theorem Json.decodeUInt32_ofNat_toNat (word : UInt32) :
    Json.decodeUInt32 (.ofNat word.toNat) = .ok word := by
  apply Json.decodeUInt32_eq_ok
  have bound := word.toNat_lt
  rw [Json.Number.toUInt32?, if_pos (by omega)]
  simp

namespace Position

/-- The parts of a position in their order. -/
def parts (position : Position) : List (String × Option Json) :=
  [("line", some (.ofNat position.line.toNat)), ("ch", some (.ofNat position.character.toNat))]

/-- A written position: an object of its parts. -/
def IsWritten (position : Position) (value : Json) : Prop := Json.IsObjectOf position.parts value

variable {position : Position} {value : Json}

theorem keys_parts (position : Position) : position.parts.map Prod.fst = ["line", "ch"] := rfl

theorem isWritten_toJson (position : Position) : IsWritten position position.toJson :=
  Json.isObjectOf_ofOptionalMembers (by rw [keys_parts]; decide)

theorem IsWritten.decode_eq_ok (written : IsWritten position value) :
    decode value = .ok position := by
  obtain ⟨stated, read, found⟩ := Json.IsObjectOf.exists_fields written
    (by rw [keys_parts]; decide) "Position"
  rw [keys_parts] at read found
  have line : stated.required "line" Json.decodeUInt32 = .ok position.line :=
    Json.Fields.required_eq_ok.mpr ⟨_, found "line" (by decide), Json.decodeUInt32_ofNat_toNat _⟩
  have character : stated.required "ch" Json.decodeUInt32 = .ok position.character :=
    Json.Fields.required_eq_ok.mpr ⟨_, found "ch" (by decide), Json.decodeUInt32_ofNat_toNat _⟩
  simp only [decode, read, line, character, bind, Except.bind, pure, Except.pure]

theorem IsWritten.isPlain (written : IsWritten position value) : Json.IsPlain 1 value := by
  apply Json.IsObjectOf.isPlain written
  rintro part inside stated present
  simp only [parts, List.mem_cons, List.not_mem_nil, or_false] at inside
  rcases inside with rfl | rfl
  · cases present
    exact Json.isPlain_ofNat_toNat position.line 0
  · cases present
    exact Json.isPlain_ofNat_toNat position.character 0

theorem IsWritten.covers (written : IsWritten position value) : demand.Covers value := by
  apply Json.IsObjectOf.covers written
  rintro part inside stated present
  simp only [parts, List.mem_cons, List.not_mem_nil, or_false] at inside
  rcases inside with rfl | rfl
  · cases present
    exact .number rfl _
  · cases present
    exact .number rfl _

end Position

namespace Diagnostic

/-- The parts of a diagnostic in their order, its position in a written form. -/
def parts (diagnostic : Diagnostic) (position : Json) : List (String × Option Json) :=
  [("pos", some position), ("message", some (.string diagnostic.message)),
    ("type", some diagnostic.severity.toJson), ("rule_id", diagnostic.ruleId.map .string)]

/-- A written diagnostic: an object of its parts, its position written likewise. -/
def IsWritten (diagnostic : Diagnostic) (value : Json) : Prop :=
  ∃ position, diagnostic.position.IsWritten position ∧
    Json.IsObjectOf (diagnostic.parts position) value

variable {diagnostic : Diagnostic} {value : Json}

theorem keys_parts (diagnostic : Diagnostic) (position : Json) :
    (diagnostic.parts position).map Prod.fst = ["pos", "message", "type", "rule_id"] := rfl

theorem isWritten_toJson (diagnostic : Diagnostic) : IsWritten diagnostic diagnostic.toJson :=
  ⟨_, diagnostic.position.isWritten_toJson,
    Json.isObjectOf_ofOptionalMembers (by rw [keys_parts]; decide)⟩

/-- A written diagnostic decodes to the diagnostic. -/
theorem IsWritten.decode_eq_ok (written : IsWritten diagnostic value) :
    decode value = .ok diagnostic := by
  obtain ⟨position, positionWritten, object⟩ := written
  obtain ⟨stated, read, found⟩ := object.exists_fields (by rw [keys_parts]; decide) "Diagnostic"
  rw [keys_parts] at read found
  have position : stated.required "pos" Position.decode = .ok diagnostic.position :=
    Json.Fields.required_eq_ok.mpr ⟨_, found "pos" (by decide), positionWritten.decode_eq_ok⟩
  have message : stated.required "message" Json.decodeString = .ok diagnostic.message :=
    Json.Fields.required_eq_ok.mpr ⟨_, found "message" (by decide), rfl⟩
  have severity : stated.required "type" Severity.decode = .ok diagnostic.severity :=
    Json.Fields.required_eq_ok.mpr ⟨_, found "type" (by decide), Severity.decode_toJson _⟩
  have rule : stated.optional "rule_id" Json.decodeString = .ok diagnostic.ruleId :=
    Json.Fields.optional_of_lookup (found "rule_id" (by decide)) (Json.optionRel_decodeString _)
  simp only [decode, read, position, message, severity, rule, bind, Except.bind, pure, Except.pure]

theorem IsWritten.isPlain (written : IsWritten diagnostic value) : Json.IsPlain 2 value := by
  obtain ⟨position, positionWritten, object⟩ := written
  apply object.isPlain
  rintro part inside stated present
  simp only [parts, List.mem_cons, List.not_mem_nil, or_false] at inside
  rcases inside with rfl | rfl | rfl | rfl
  · cases present
    exact positionWritten.isPlain
  · cases present
    exact .string diagnostic.message
  · cases present
    exact .string diagnostic.severity.name
  · obtain ⟨text, _, rfl⟩ := Option.map_eq_some_iff.mp present
    exact .string text

theorem IsWritten.covers (written : IsWritten diagnostic value) : demand.Covers value := by
  obtain ⟨position, positionWritten, object⟩ := written
  apply object.covers
  rintro part inside stated present
  simp only [parts, List.mem_cons, List.not_mem_nil, or_false] at inside
  rcases inside with rfl | rfl | rfl | rfl
  · cases present
    exact positionWritten.covers
  · cases present
    exact .string rfl diagnostic.message
  · cases present
    exact .string rfl diagnostic.severity.name
  · obtain ⟨text, _, rfl⟩ := Option.map_eq_some_iff.mp present
    exact .string rfl text

/-- A written diagnostic states a rule exactly if it has one. -/
theorem get?_ruleId_toJson (diagnostic : Diagnostic) :
    diagnostic.toJson.get? "rule_id" = diagnostic.ruleId.map .string := by
  rw [toJson, Json.get?_ofOptionalMembers (by simp)]
  rfl

section Lists

variable {diagnostics : List Diagnostic} {values : List Json}

theorem forall₂_isWritten_toJson (diagnostics : List Diagnostic) :
    List.Forall₂ IsWritten diagnostics (diagnostics.map toJson) := by
  rw [List.forall₂_map_right_iff]
  exact List.forall₂_same.mpr fun diagnostic _ => diagnostic.isWritten_toJson

theorem decodeList_eq_ok (written : List.Forall₂ IsWritten diagnostics values) :
    Json.decodeList decode (.array values) = .ok diagnostics := by
  refine Json.mapM_eq_ok.mpr (List.Forall₂.flip (written.imp ?_))
  intro diagnostic value here
  exact IsWritten.decode_eq_ok here

theorem exists_isWritten_of_mem (written : List.Forall₂ IsWritten diagnostics values)
    (inside : value ∈ values) : ∃ diagnostic, IsWritten diagnostic value := by
  induction written with
  | nil => cases inside
  | cons here rest ih =>
      rcases List.mem_cons.mp inside with rfl | later
      · exact ⟨_, here⟩
      · exact ih later

theorem isPlain_array (written : List.Forall₂ IsWritten diagnostics values) :
    Json.IsPlain 3 (.array values) := by
  apply Json.IsPlain.array
  intro value inside
  obtain ⟨diagnostic, here⟩ := exists_isWritten_of_mem written inside
  exact here.isPlain

theorem covers_array (written : List.Forall₂ IsWritten diagnostics values) :
    (Json.Demand.each demand).Covers (.array values) := by
  refine .array rfl ?_
  intro index value inside
  obtain ⟨diagnostic, here⟩ := exists_isWritten_of_mem written (List.mem_of_getElem? inside)
  exact here.covers

end Lists

end Diagnostic

namespace ScanResult

/-- A written scan result: an object with the list of its diagnostics, each of them written. -/
def IsWritten (result : ScanResult) (value : Json) : Prop :=
  ∃ values, value = .object [("errors", .array values)] ∧
    List.Forall₂ Diagnostic.IsWritten result.diagnostics values

variable {result : ScanResult} {value : Json}

theorem isWritten_toJson (result : ScanResult) : IsWritten result result.toJson :=
  ⟨_, rfl, Diagnostic.forall₂_isWritten_toJson result.diagnostics⟩

theorem IsWritten.decode_eq_ok (written : IsWritten result value) :
    decode value = .ok result := by
  obtain ⟨values, rfl, diagnostics⟩ := written
  have read : Json.fields "ScanResult" ["errors"] (.object [("errors", .array values)]) =
      .ok [("errors", .array values)] := rfl
  have errors : Json.Fields.required [("errors", .array values)] "errors"
      (Json.decodeList Diagnostic.decode) = .ok result.diagnostics :=
    Diagnostic.decodeList_eq_ok diagnostics
  simp only [decode, read, errors, bind, Except.bind, pure, Except.pure]

theorem IsWritten.isPlain (written : IsWritten result value) : Json.IsPlain 4 value := by
  obtain ⟨values, rfl, diagnostics⟩ := written
  apply Json.IsPlain.object
  intro member inside
  rw [List.mem_singleton.mp inside]
  exact Diagnostic.isPlain_array diagnostics

theorem IsWritten.covers (written : IsWritten result value) : demand.Covers value := by
  obtain ⟨values, rfl, diagnostics⟩ := written
  refine .object rfl ?_
  intro member inside
  rw [List.mem_singleton.mp inside]
  exact Diagnostic.covers_array diagnostics

/-- A written scan result is read back from its text, in either form, as decoding reads it. -/
theorem IsWritten.readRaw_eq_ok (written : IsWritten result value) :
    Json.readRaw demand value.compact.toList = .ok value ∧
      Json.readRaw demand value.pretty.toList = .ok value := by
  have plain := written.isPlain.mono (by decide : 4 ≤ Json.Reader.deepest)
  have noSpaces : Json.Reader.AreSpaces [] := Json.Reader.areSpaces_nil
  constructor
  · have reads := Json.readRaw_print plain noSpaces
    rw [List.append_nil] at reads
    rw [Json.compact, String.toList_ofList]
    exact Json.readRaw_of_covers written.covers reads
  · have reads := Json.readRaw_of_reads (Json.Reader.reads_printIndented plain 0) noSpaces
    rw [List.append_nil] at reads
    rw [Json.pretty, String.toList_ofList]
    exact Json.readRaw_of_covers written.covers reads

end ScanResult

end MarkupLint
