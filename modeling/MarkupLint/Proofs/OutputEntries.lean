import MarkupLint.Proofs.EngineOutput
import Mathlib.Data.List.Nodup

/-!
# Entries of engine output

The entries of an output are the findings that it lists, or the messages of its reports.  Where an
entry points to and what it says may be stated by values of any kind: what does not fit counts as
left out.  So every entry becomes the finding at its place, whatever these four parts are, and
changing them in one entry changes no other finding.
-/

namespace MarkupLint

namespace Json

/-- An object states an unsigned integer of 32 bits under a key. -/
def StatesWord (value : Json) (key : String) (word : UInt32) : Prop :=
  value.get? key = some (.number (.integer word.toNat))

/-- An object states a text under a key. -/
def StatesText (value : Json) (key : String) (text : String) : Prop :=
  value.get? key = some (.string text)

/-- An object has nothing under a key, or null, or a value of some kind. -/
def MayState (value : Json) (key : String) (accepts : Json → Prop) : Prop :=
  ∀ part, value.get? key = some part → part = .null ∨ accepts part

/-- None of some keys is repeated among the members of an object. -/
def RepeatsNone (keys : List String) (value : Json) : Prop :=
  ∀ members, value = .object members → ∀ key ∈ keys, (members.map Prod.fst).count key ≤ 1

/-- What is left of an object without its members under some keys. -/
def without (keys : List String) : Json → Json
  | .object members => .object (members.filter fun member => !keys.contains member.1)
  | other => other

variable {keys : List String} {key : String} {value other : Json}

theorem lookup_filter_not_contains (kept : key ∉ keys) (members : Members) :
    (members.filter fun member => !keys.contains member.1).lookup key = members.lookup key := by
  induction members with
  | nil => rfl
  | cons member rest ih =>
      obtain ⟨name, value⟩ := member
      by_cases same : key = name
      · subst same
        simp [kept]
      · have skipped := beq_false_of_ne same
        by_cases dropped : name ∈ keys <;> simp [dropped, List.lookup_cons, skipped] at ih ⊢ <;>
          exact ih

theorem get?_without (kept : key ∉ keys) (value : Json) :
    (value.without keys).get? key = value.get? key := by
  cases value with
  | object members => exact lookup_filter_not_contains kept members
  | _ => rfl

/-- Objects that are the same without some keys repeat the same other keys. -/
theorem RepeatsNone.of_without {others : List String} (once : value.RepeatsNone keys)
    (isObject : value.isObject) (same : other.without others = value.without others)
    (onceOthers : other.RepeatsNone others) : other.RepeatsNone keys := by
  rintro members rfl key known
  by_cases dropped : key ∈ others
  · exact onceOthers members rfl key dropped
  · cases value with
    | object stated =>
        have kept (members : Members) :
            (members.map Prod.fst).count key =
              ((members.filter fun member => !others.contains member.1).map Prod.fst).count key := by
          have filtered : (members.filter fun member => !others.contains member.1).map Prod.fst =
              (members.map Prod.fst).filter fun name => !others.contains name := by
            rw [List.filter_map]
            rfl
          rw [filtered, List.count_filter (by simpa using dropped)]
        rw [kept, Json.object.inj same, ← kept]
        exact once stated rfl key known
    | _ => cases isObject

theorem exists_fields_of_repeatsNone (isObject : value.isObject) (once : value.RepeatsNone keys)
    (typeName : String) : ∃ stated, value.fields typeName keys = .ok stated := by
  cases value with
  | object members =>
      refine ⟨_, fields_object_eq_ok.mpr ⟨?_, rfl⟩⟩
      rw [List.nodup_iff_count_le_one]
      intro key
      by_cases known : key ∈ keys
      · have fewer : ((members.filter fun member => keys.contains member.1).map Prod.fst).Sublist
            (members.map Prod.fst) := List.filter_sublist.map Prod.fst
        exact Nat.le_trans (fewer.count_le key) (once members rfl key known)
      · have absent : key ∉ (members.filter fun member => keys.contains member.1).map Prod.fst := by
          intro inside
          obtain ⟨member, kept, rfl⟩ := List.mem_map.mp inside
          exact known (List.contains_iff_mem.mp (List.mem_filter.mp kept).2)
        rw [List.count_eq_zero_of_not_mem absent]
        exact Nat.zero_le 1
  | _ => cases isObject

theorem Fields.optional_congr {α : Type} {stated others : Fields} {name : String}
    (same : others.lookup name = stated.lookup name) (decode : Json → Decoded α) :
    others.optional name decode = stated.optional name decode := by
  simp only [Fields.optional, same]

end Json

namespace Finding

/-- The parts that may be stated by values of any kind. -/
def lenientNames : List String := ["line", "col", "message", "type"]

/-- An object that becomes a finding whatever its lenient parts are: no known part is repeated, and
each of the others is left out, null or well formed. -/
structure IsEntry (entry : Json) : Prop where
  isObject : entry.isObject
  once : entry.RepeatsNone fieldNames
  rule : entry.MayState "rule" RuleRef.IsWellFormed
  evidence : entry.MayState "evidence" Json.IsString
  raw : entry.MayState "raw" Json.IsString

/-- The lenient parts of a finding are those that an entry states, if they are of the right kind,
and otherwise the defaults. -/
structure ReadsAs (entry : Json) (finding : Finding) : Prop where
  line : ∀ word, finding.line = some word ↔ entry.StatesWord "line" word
  column : ∀ word, finding.column = word ↔ entry.StatesWord "col" word ∨
    (¬ ∃ stated, entry.StatesWord "col" stated) ∧ word = 0
  message : ∀ text, finding.message = text ↔ entry.StatesText "message" text ∨
    (¬ ∃ stated, entry.StatesText "message" stated) ∧ text = ""
  tag : ∀ text, finding.tag = text ↔ entry.StatesText "type" text ∨
    (¬ ∃ stated, entry.StatesText "type" stated) ∧ text = "warning"

/-- Two findings agree on all that is not lenient. -/
structure AgreesBeside (first second : Finding) : Prop where
  rule : first.rule = second.rule
  evidence : first.evidence = second.evidence
  raw : first.raw = second.raw

/-- An entry in which nothing but the lenient parts is changed, none of them repeated. -/
structure IsChanged (entry changed : Json) : Prop where
  isObject : changed.isObject
  once : changed.RepeatsNone lenientNames
  same : changed.without lenientNames = entry.without lenientNames

variable {entry changed : Json} {finding again : Finding}

theorem lenientString?_eq_some {value : Json} {text : String} :
    lenientString? value = some text ↔ value = .string text := by
  cases value <;> simp [lenientString?]

theorem bind_lenientUInt32?_eq_some {key : String} {word : UInt32} :
    (entry.get? key).bind lenientUInt32? = some word ↔ entry.StatesWord key word := by
  cases found : entry.get? key with
  | none => simp [Json.StatesWord, found]
  | some part =>
      simp only [Json.StatesWord, found, Option.bind_some, Option.some.injEq,
        lenientUInt32?_eq_some, Json.ofNat]

theorem bind_lenientString?_eq_some {key text : String} :
    (entry.get? key).bind lenientString? = some text ↔ entry.StatesText key text := by
  cases found : entry.get? key with
  | none => simp [Json.StatesText, found]
  | some part =>
      simp only [Json.StatesText, found, Option.bind_some, Option.some.injEq,
        lenientString?_eq_some]

/-- What is read, or else a default. -/
theorem getD_eq_iff_states {α : Type} {read : Option α} {states : α → Prop}
    (reads : ∀ value, read = some value ↔ states value) (default value : α) :
    read.getD default = value ↔ states value ∨ (¬ ∃ stated, states stated) ∧ value = default := by
  have unread : read = none ↔ ¬ ∃ stated, states stated := by
    simp only [← reads, ← Option.isSome_iff_exists, Option.isSome_iff_ne_none, not_not]
  rw [Option.getD_eq_iff, reads, unread, eq_comm (a := default)]

theorem readsAs_of_decode (isObject : entry.isObject) (decoded : decode entry = .ok finding) :
    ReadsAs entry finding := by
  obtain ⟨stated, read, _, _, _, line, column, message, tag⟩ := decode_eq_ok.mp decoded
  have found : ∀ key ∈ fieldNames, stated.lookup key = entry.get? key :=
    fun key known => Json.lookup_of_fields isObject read known
  rw [found _ (by decide)] at line column message tag
  constructor
  · intro word
    rw [line, bind_lenientUInt32?_eq_some]
  · intro word
    rw [column, getD_eq_iff_states fun _ => bind_lenientUInt32?_eq_some]
  · intro text
    rw [message, getD_eq_iff_states fun _ => bind_lenientString?_eq_some]
  · intro text
    rw [tag, getD_eq_iff_states fun _ => bind_lenientString?_eq_some]
    rfl

theorem IsEntry.isWellFormed (isEntry : IsEntry entry) : IsWellFormed entry := by
  obtain ⟨stated, read⟩ :=
    Json.exists_fields_of_repeatsNone isEntry.isObject isEntry.once "Finding"
  have found : ∀ key ∈ fieldNames, stated.lookup key = entry.get? key :=
    fun key known => Json.lookup_of_fields isEntry.isObject read known
  refine ⟨stated, read, ?_, ?_, ?_⟩ <;> rw [Json.Fields.Permits, found _ (by decide)]
  · exact isEntry.rule
  · exact isEntry.evidence
  · exact isEntry.raw

theorem IsChanged.get?_eq (isChanged : IsChanged entry changed) {key : String}
    (strict : key ∉ lenientNames) : changed.get? key = entry.get? key := by
  rw [← Json.get?_without strict, isChanged.same, Json.get?_without strict]

theorem IsChanged.isEntry (isChanged : IsChanged entry changed) (isEntry : IsEntry entry) :
    IsEntry changed where
  isObject := isChanged.isObject
  once := isEntry.once.of_without isEntry.isObject isChanged.same isChanged.once
  rule := by
    rw [Json.MayState, isChanged.get?_eq (by decide)]
    exact isEntry.rule
  evidence := by
    rw [Json.MayState, isChanged.get?_eq (by decide)]
    exact isEntry.evidence
  raw := by
    rw [Json.MayState, isChanged.get?_eq (by decide)]
    exact isEntry.raw

theorem IsChanged.agreesBeside (isChanged : IsChanged entry changed) (isObject : entry.isObject)
    (decoded : decode entry = .ok finding) (decodedAgain : decode changed = .ok again) :
    AgreesBeside again finding := by
  obtain ⟨stated, read, rule, evidence, raw, _⟩ := decode_eq_ok.mp decoded
  obtain ⟨others, readAgain, ruleAgain, evidenceAgain, rawAgain, _⟩ := decode_eq_ok.mp decodedAgain
  have same : ∀ key ∈ fieldNames, key ∉ lenientNames → others.lookup key = stated.lookup key := by
    intro key known strict
    rw [Json.lookup_of_fields isObject read known,
      Json.lookup_of_fields isChanged.isObject readAgain known, isChanged.get?_eq strict]
  rw [Json.Fields.optional_congr (same "rule" (by decide) (by decide)), rule] at ruleAgain
  rw [Json.Fields.optional_congr (same "evidence" (by decide) (by decide)), evidence]
    at evidenceAgain
  rw [Json.Fields.optional_congr (same "raw" (by decide) (by decide)), raw] at rawAgain
  exact ⟨(Except.ok.inj ruleAgain).symm, (Except.ok.inj evidenceAgain).symm,
    (Except.ok.inj rawAgain).symm⟩

end Finding

namespace EngineOutput

/-- The entries that a document holds: the objects that it lists, none of which states messages, or
the messages of the reports that it lists, each of which states them once. -/
inductive HoldsEntries : Json → List Json → Prop
  | findings {entries : List Json} (unstated : ∀ entry ∈ entries, entry.get? "messages" = none) :
      HoldsEntries (.array entries) entries
  | reports {reports : List Json} {messages : List (List Json)}
      (shape : IsReporter reports messages)
      (once : ∀ report ∈ reports, report.RepeatsNone ["messages"]) :
      HoldsEntries (.array reports) messages.flatten

variable {output : String} {document : Json} {entries : List Json} {findings : List Finding}

theorem exists_forall₂_decodesTo (fit : ∀ entry ∈ entries, Finding.IsEntry entry) :
    ∃ findings, List.Forall₂ DecodesTo entries findings := by
  apply Json.exists_forall₂_iff.mpr
  intro entry inside
  exact Finding.exists_decode_iff.mpr (fit entry inside).isWellFormed

/-- Whatever form an output has, its findings are what its entries decode to. -/
theorem parse_of_holdsEntries
    (read : Json.readRaw .whole (Text.trim output.toList) = .ok document)
    (holds : HoldsEntries document entries) (fit : ∀ entry ∈ entries, Finding.IsEntry entry)
    (decoded : List.Forall₂ DecodesTo entries findings) : parse output = .ok findings := by
  rw [parse_of_read read]
  cases holds with
  | findings unstated =>
      have first : ∀ first ∈ entries.head?, first.isObject ∧ first.get? "messages" = none := by
        intro first inside
        have listed := List.mem_of_mem_head? inside
        exact ⟨(fit first listed).isObject, unstated first listed⟩
      rw [decode?_of_unstated first decoded]
  | @reports reports messages shape once =>
      have wellFormed : AreWellFormed reports messages := by
        refine ⟨fun report inside => ?_, fun message inside => (fit message inside).isWellFormed⟩
        exact Json.exists_fields_of_repeatsNone (shape.isObject_of_mem inside) (once report inside) _
      rw [(decode?_eq_some_iff shape).mpr (.inl ⟨wellFormed, decoded⟩)]

theorem readsAs_of_decodesTo (fit : ∀ entry ∈ entries, Finding.IsEntry entry)
    (decoded : List.Forall₂ DecodesTo entries findings) :
    List.Forall₂ Finding.ReadsAs entries findings := by
  induction decoded with
  | nil => exact .nil
  | cons here _ ih =>
      rw [List.forall_mem_cons] at fit
      exact .cons (Finding.readsAs_of_decode fit.1.isObject here) (ih fit.2)

/-- An output whose entries are findings, odd parts aside, is accepted, with one finding for each
entry in their order.  If the lenient parts of one entry are changed, so is its finding, in these
parts, and no other. -/
theorem entries_read_one_by_one
    (read : Json.readRaw .whole (Text.trim output.toList) = .ok document)
    (holds : HoldsEntries document entries) (fit : ∀ entry ∈ entries, Finding.IsEntry entry) :
    ∃ findings, parse output = .ok findings ∧ List.Forall₂ Finding.ReadsAs entries findings ∧
      ∀ before entry after changed, entries = before ++ entry :: after →
        Finding.IsChanged entry changed →
        ∀ others otherDocument,
          Json.readRaw .whole (Text.trim others.toList) = .ok otherDocument →
          HoldsEntries otherDocument (before ++ changed :: after) →
          ∃ first finding again last, findings = first ++ finding :: last ∧
            parse others = .ok (first ++ again :: last) ∧ first.length = before.length ∧
            Finding.ReadsAs changed again ∧ Finding.AgreesBeside again finding := by
  obtain ⟨findings, decoded⟩ := exists_forall₂_decodesTo fit
  refine ⟨findings, parse_of_holdsEntries read holds fit decoded, readsAs_of_decodesTo fit decoded,
    ?_⟩
  rintro before entry after changed rfl isChanged others otherDocument readOthers holdsOthers
  obtain ⟨first, rest, firstDecoded, restDecoded, rfl⟩ := Json.exists_append_of_forall₂ decoded
  obtain ⟨finding, last, here, lastDecoded, rfl⟩ := List.forall₂_cons_left_iff.mp restDecoded
  have isEntry : Finding.IsEntry entry := fit entry (by simp)
  have changedEntry : Finding.IsEntry changed := isChanged.isEntry isEntry
  obtain ⟨again, decodedAgain⟩ := Finding.exists_decode_iff.mpr changedEntry.isWellFormed
  have fitOthers : ∀ other ∈ before ++ changed :: after, Finding.IsEntry other := by
    intro other inside
    rcases List.mem_append.mp inside with early | rest
    · exact fit other (List.mem_append_left _ early)
    · rcases List.mem_cons.mp rest with rfl | late
      · exact changedEntry
      · exact fit other (List.mem_append_right _ (List.mem_cons_of_mem _ late))
  have decodedOthers : List.Forall₂ DecodesTo (before ++ changed :: after)
      (first ++ again :: last) := List.rel_append firstDecoded (.cons decodedAgain lastDecoded)
  exact ⟨first, finding, again, last, rfl,
    parse_of_holdsEntries readOthers holdsOthers fitOthers decodedOthers,
    firstDecoded.length_eq.symm, Finding.readsAs_of_decode changedEntry.isObject decodedAgain,
    isChanged.agreesBeside isEntry.isObject here decodedAgain⟩

/-- The first message of a report states a text for its column and a number for its tag; listed
without a report, and with a text for its line as well, it leaves the entry after it alone. -/
theorem entries_read_one_by_one_odd_entry :
    ∃ finding again fine,
      parse ("[\x7b\"messages\":[\x7b\"line\":1,\"col\":\"3\",\"type\":2\x7d," ++
        "\x7b\"line\":2,\"col\":4,\"type\":\"error\"\x7d]\x7d]") = .ok [finding, fine] ∧
      parse ("[\x7b\"type\":null,\"line\":\"7\"\x7d," ++
        "\x7b\"line\":2,\"col\":4,\"type\":\"error\"\x7d]") = .ok [again, fine] ∧
      finding.line = some 1 ∧ finding.column = 0 ∧ again.line = none ∧ again.tag = "warning" ∧
      fine.line = some 2 ∧ fine.column = 4 ∧ fine.tag = "error" := by
  let odd : Json := .object [("line", .ofNat 1), ("col", .string "3"), ("type", .ofNat 2)]
  let odder : Json := .object [("type", .null), ("line", .string "7")]
  let usual : Json := .object [("line", .ofNat 2), ("col", .ofNat 4), ("type", .string "error")]
  have read : Json.readRaw .whole (Text.trim ("[\x7b\"messages\":[\x7b\"line\":1,\"col\":\"3\"," ++
      "\"type\":2\x7d,\x7b\"line\":2,\"col\":4,\"type\":\"error\"\x7d]\x7d]").toList) =
        .ok (.array [.object [("messages", .array [odd, usual])]]) :=
    eq_ok_of_toOption (by decide +kernel)
  have readOthers : Json.readRaw .whole (Text.trim ("[\x7b\"type\":null,\"line\":\"7\"\x7d," ++
      "\x7b\"line\":2,\"col\":4,\"type\":\"error\"\x7d]").toList) = .ok (.array [odder, usual]) :=
    eq_ok_of_toOption (by decide +kernel)
  have fits : ∀ members, (∀ key ∈ Finding.fieldNames, (members.map Prod.fst).count key ≤ 1) →
      (∀ key ∈ ["rule", "evidence", "raw"], (members.lookup key : Option Json) = none) →
      Finding.IsEntry (.object members) := by
    intro members once absent
    have unstated : ∀ key ∈ ["rule", "evidence", "raw"], ∀ accepts,
        (Json.object members).MayState key accepts := by
      intro key strict accepts part found
      rw [Json.get?, absent key strict] at found
      cases found
    refine ⟨rfl, ?_, unstated _ (by simp) _, unstated _ (by simp) _, unstated _ (by simp) _⟩
    intro stated same
    obtain rfl := Json.object.inj same
    exact once
  have fit : ∀ entry ∈ [odd, usual], Finding.IsEntry entry := by
    intro entry inside
    simp only [List.mem_cons, List.not_mem_nil, or_false] at inside
    rcases inside with rfl | rfl <;> exact fits _ (by decide) (by decide)
  have shape : IsReporter [.object [("messages", .array [odd, usual])]] [[odd, usual]] :=
    .cons ⟨rfl, by simp [odd, usual, Json.isObject]⟩ .nil
  have holds : HoldsEntries (.array [.object [("messages", .array [odd, usual])]]) [odd, usual] := by
    refine .reports shape ?_
    intro report inside members same
    obtain rfl := List.mem_singleton.mp inside
    obtain rfl := Json.object.inj same
    decide
  have holdsOthers : HoldsEntries (.array ([] ++ odder :: [usual])) ([] ++ odder :: [usual]) :=
    .findings (by decide)
  have isChanged : Finding.IsChanged odd odder := by
    refine ⟨rfl, ?_, rfl⟩
    intro members same
    obtain rfl := Json.object.inj same
    decide
  obtain ⟨findings, parsed, reads, changes⟩ := entries_read_one_by_one read holds fit
  obtain ⟨first, finding, again, last, rfl, parsedOthers, short, readsAgain, _⟩ :=
    changes [] odd [usual] odder rfl isChanged _ _ readOthers holdsOthers
  obtain rfl := List.eq_nil_of_length_eq_zero short
  obtain ⟨readsOdd, readsLast⟩ := List.forall₂_cons.mp reads
  obtain ⟨fine, _, readsFine, readsNone, rfl⟩ := List.forall₂_cons_left_iff.mp readsLast
  obtain rfl := List.forall₂_nil_left_iff.mp readsNone
  have noLine : again.line = none := by
    cases stated : again.line with
    | none => rfl
    | some word => cases (readsAgain.line word).mp stated
  have noColumn : ¬ ∃ stated, odd.StatesWord "col" stated := by
    rintro ⟨_, ⟨⟩⟩
  have noTag : ¬ ∃ stated, odder.StatesText "type" stated := by
    rintro ⟨_, ⟨⟩⟩
  exact ⟨finding, again, fine, parsed, parsedOthers, (readsOdd.line 1).mpr rfl,
    (readsOdd.column 0).mpr (.inr ⟨noColumn, rfl⟩), noLine,
    (readsAgain.tag "warning").mpr (.inr ⟨noTag, rfl⟩), (readsFine.line 2).mpr rfl,
    (readsFine.column 4).mpr (.inl rfl), (readsFine.tag "error").mpr (.inl rfl)⟩

end EngineOutput

end MarkupLint
