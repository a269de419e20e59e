import MarkupLint.Json.Decoding
import MarkupLint.Proofs.Json.Members
import Mathlib.Data.List.Forall2

/-!
# When values decode

Each decoder is described by when it succeeds and with what: a record when none of its known fields
is repeated and each field is accepted, a list when each item is.
-/

namespace MarkupLint.Json

variable {α β : Type}

theorem Decoded.bind_eq_ok {first : Decoded α} {next : α → Decoded β} {result : β} :
    first >>= next = .ok result ↔ ∃ middle, first = .ok middle ∧ next middle = .ok result := by
  cases first <;> simp [bind, Except.bind]

theorem Decoded.map_eq_ok {decoded : Decoded α} {change : α → β} {result : β} :
    decoded.map change = .ok result ↔ ∃ middle, decoded = .ok middle ∧ change middle = result := by
  cases decoded <;> simp [Except.map]

theorem firstRepeated?_eq_none {names : List String} :
    firstRepeated? names = none ↔ names.Nodup := by
  induction names with
  | nil => simp [firstRepeated?]
  | cons name rest ih =>
      by_cases again : name ∈ rest <;> simp [firstRepeated?, again, ih]

theorem lookup_filter_contains {names : List String} {key : String} (known : key ∈ names)
    (members : Members) :
    (members.filter fun member => names.contains member.1).lookup key = members.lookup key := by
  induction members with
  | nil => rfl
  | cons member rest ih =>
      obtain ⟨name, value⟩ := member
      by_cases same : key = name
      · subst same
        simp [known]
      · have skipped := beq_false_of_ne same
        by_cases kept : name ∈ names <;> simp [kept, List.lookup_cons, skipped] at ih ⊢ <;>
          exact ih

/-- The known fields of an object are its members with known keys, if none of them is repeated. -/
theorem fields_object_eq_ok {typeName : String} {names : List String} {members : Members}
    {stated : Fields} :
    fields typeName names (.object members) = .ok stated ↔
      ((members.filter fun member => names.contains member.1).map Prod.fst).Nodup ∧
        stated = members.filter fun member => names.contains member.1 := by
  rw [← firstRepeated?_eq_none]
  simp only [fields]
  cases firstRepeated? ((members.filter fun member => names.contains member.1).map Prod.fst) with
  | none => simp [eq_comm]
  | some name => simp

theorem lookup_of_fields {typeName : String} {names : List String} {value : Json}
    {stated : Fields} (isObject : value.isObject)
    (read : value.fields typeName names = .ok stated) {key : String} (known : key ∈ names) :
    stated.lookup key = value.get? key := by
  cases value with
  | object members =>
      obtain ⟨_, rfl⟩ := fields_object_eq_ok.mp read
      exact lookup_filter_contains known members
  | _ => simp [Json.isObject] at isObject

namespace Fields

/-- A field that is left out, null or accepted. -/
def Permits (stated : Fields) (name : String) (accepts : Json → Prop) : Prop :=
  ∀ value, stated.lookup name = some value → value = .null ∨ accepts value

/-- A field that is stated and not null. -/
def Gives (stated : Fields) (name : String) (value : Json) : Prop :=
  stated.lookup name = some value ∧ value ≠ .null

theorem required_eq_ok {stated : Fields} {name : String} {decode : Json → Decoded α}
    {result : α} :
    stated.required name decode = .ok result ↔
      ∃ value, stated.lookup name = some value ∧ decode value = .ok result := by
  unfold required
  cases stated.lookup name <;> simp

theorem exists_optional_iff {stated : Fields} {name : String} {decode : Json → Decoded α} :
    (∃ result, stated.optional name decode = .ok result) ↔
      stated.Permits name fun value => ∃ result, decode value = .ok result := by
  unfold optional Permits
  cases stated.lookup name with
  | none => simp
  | some value =>
      cases value <;> simp [Decoded.map_eq_ok]

theorem optional_of_gives {stated : Fields} {name : String} {value : Json}
    (gives : stated.Gives name value) (decode : Json → Decoded α) :
    stated.optional name decode = (decode value).map some := by
  obtain ⟨found, notNull⟩ := gives
  unfold optional
  rw [found]
  cases value with
  | null => exact absurd rfl notNull
  | _ => rfl

theorem optional_of_not_gives {stated : Fields} {name : String}
    (unstated : ¬ ∃ value, stated.Gives name value) (decode : Json → Decoded α) :
    stated.optional name decode = .ok none := by
  unfold optional
  cases found : stated.lookup name with
  | none => rfl
  | some value =>
      obtain rfl : value = .null := by_contra fun notNull => unstated ⟨value, found, notNull⟩
      rfl

theorem optional_eq_ok {stated : Fields} {name : String} {decode : Json → Decoded α}
    {result : Option α} :
    stated.optional name decode = .ok result ↔
      (∀ value, stated.Gives name value → ∃ part, decode value = .ok part) ∧
        ∀ part, result = some part ↔ ∃ value, stated.Gives name value ∧ decode value = .ok part := by
  by_cases given : ∃ value, stated.Gives name value
  · obtain ⟨value, gives⟩ := given
    have only (other : Json) : stated.Gives name other ↔ other = value :=
      ⟨fun also => Option.some.inj (also.1.symm.trans gives.1), fun same => same ▸ gives⟩
    rw [optional_of_gives gives]
    simp only [only, forall_eq, exists_eq_left]
    cases decode value with
    | error error => simp [Except.map]
    | ok part => cases result <;> simp [Except.map, eq_comm]
  · rw [optional_of_not_gives given]
    have never (value : Json) : ¬ stated.Gives name value := fun gives => given ⟨value, gives⟩
    cases result <;> simp [never]

theorem defaulted_eq_ok {stated : Fields} {name : String} {decode : Json → Decoded α}
    {default result : α} :
    stated.defaulted name decode default = .ok result ↔
      (∃ value, stated.lookup name = some value ∧ decode value = .ok result) ∨
        (stated.lookup name = none ∧ result = default) := by
  unfold defaulted
  cases stated.lookup name <;> simp [eq_comm]

end Fields

theorem decodeString_eq_ok {value : Json} {text : String} :
    decodeString value = .ok text ↔ value = .string text := by
  cases value <;> simp [decodeString]

theorem exists_decodeString_iff {value : Json} :
    (∃ text, decodeString value = .ok text) ↔ ∃ text, value = .string text := by
  cases value <;> simp [decodeString]

/-- A list decodes when each item does, into the decoded items in their order. -/
theorem mapM_eq_ok {decode : α → Decoded β} {items : List α} {results : List β} :
    items.mapM decode = .ok results ↔
      List.Forall₂ (fun item result => decode item = .ok result) items results := by
  induction items generalizing results with
  | nil =>
      rw [List.mapM_nil, List.forall₂_nil_left_iff]
      exact ⟨fun same => (Except.ok.inj same).symm, fun same => same ▸ rfl⟩
  | cons item rest ih =>
      rw [List.mapM_cons, Decoded.bind_eq_ok, List.forall₂_cons_left_iff]
      constructor
      · rintro ⟨first, firstDecoded, decoded⟩
        obtain ⟨others, othersDecoded, same⟩ := Decoded.bind_eq_ok.mp decoded
        exact ⟨first, others, firstDecoded, ih.mp othersDecoded, (Except.ok.inj same).symm⟩
      · rintro ⟨first, others, firstDecoded, othersDecoded, rfl⟩
        exact ⟨first, firstDecoded,
          Decoded.bind_eq_ok.mpr ⟨others, ih.mpr othersDecoded, rfl⟩⟩

theorem exists_forall₂_iff {related : α → β → Prop} {items : List α} :
    (∃ results, List.Forall₂ related items results) ↔
      ∀ item ∈ items, ∃ result, related item result := by
  induction items with
  | nil => simp
  | cons item rest ih =>
      simp only [List.forall₂_cons_left_iff, List.forall_mem_cons, ← ih]
      constructor
      · rintro ⟨_, first, others, firstRelated, othersRelated, rfl⟩
        exact ⟨⟨first, firstRelated⟩, others, othersRelated⟩
      · rintro ⟨⟨first, firstRelated⟩, others, othersRelated⟩
        exact ⟨_, first, others, firstRelated, othersRelated, rfl⟩

/-- The counterparts of two lists in a row are those of the one and then those of the other. -/
theorem exists_append_of_forall₂ {related : α → β → Prop} {items others : List α}
    {results : List β} (paired : List.Forall₂ related (items ++ others) results) :
    ∃ first second, List.Forall₂ related items first ∧ List.Forall₂ related others second ∧
      results = first ++ second := by
  induction items generalizing results with
  | nil => exact ⟨[], results, .nil, paired, rfl⟩
  | cons item rest ih =>
      rw [List.cons_append, List.forall₂_cons_left_iff] at paired
      obtain ⟨result, later, here, laterPaired, rfl⟩ := paired
      obtain ⟨first, second, firstPaired, secondPaired, rfl⟩ := ih laterPaired
      exact ⟨result :: first, second, .cons here firstPaired, secondPaired, rfl⟩

end MarkupLint.Json
