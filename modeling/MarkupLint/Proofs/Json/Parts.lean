import MarkupLint.Proofs.Json.Decoding
import MarkupLint.Proofs.Json.Reading

/-!
# Objects by their parts

A record is written as an object of its parts, some of which may be absent.  In whatever order the
members stand, every part is found under its key, and the object is as plain and as canonical as its
parts make it.
-/

namespace MarkupLint.Json

/-- The parts that are there, in their order. -/
def Members.present (parts : List (String × Option Json)) : Members :=
  parts.filterMap fun part => part.2.map (part.1, ·)

/-- An object of the parts that are there, in any order. -/
def IsObjectOf (parts : List (String × Option Json)) (value : Json) : Prop :=
  ∃ members, value = .object members ∧ members.Perm (Members.present parts)

variable {parts : List (String × Option Json)} {key : String}

namespace Members

theorem mem_present_iff {value : Json} :
    (key, value) ∈ present parts ↔ (key, some value) ∈ parts := by
  unfold present
  rw [List.mem_filterMap]
  constructor
  · rintro ⟨⟨name, part⟩, inside, found⟩
    obtain ⟨stated, rfl, same⟩ := Option.map_eq_some_iff.mp found
    cases same
    exact inside
  · intro inside
    exact ⟨_, inside, rfl⟩

theorem keys_present_sublist (parts : List (String × Option Json)) :
    ((present parts).map Prod.fst).Sublist (parts.map Prod.fst) := by
  induction parts with
  | nil => exact .slnil
  | cons part rest ih =>
      obtain ⟨name, value⟩ := part
      cases value with
      | none => exact ih.cons name
      | some value => exact ih.cons_cons name

theorem lookup_present (distinct : (parts.map Prod.fst).Nodup) :
    (present parts).lookup key = (parts.lookup key).join := by
  induction parts with
  | nil => rfl
  | cons part rest ih =>
      obtain ⟨name, value⟩ := part
      rw [List.map_cons, List.nodup_cons] at distinct
      have restFound := ih distinct.2
      by_cases same : key = name
      · subst same
        cases value with
        | some value => simp [present]
        | none =>
            -- An absent part must not be found under a later part of the same name.
            have missing : (present rest).lookup key = none :=
              lookup_eq_none_iff.mpr fun stated =>
                distinct.1 ((keys_present_sublist rest).subset stated)
            simpa [present] using missing
      · have skipped := beq_false_of_ne same
        cases value with
        | none => simpa [present, List.lookup_cons, skipped] using restFound
        | some value => simpa [present, List.lookup_cons, skipped] using restFound

end Members

/-- A value that is parsed back from its texts as it is, within some levels of nesting. -/
structure IsReadable (depth : Nat) (value : Json) : Prop where
  canonical : IsCanonical value
  plain : IsPlain depth value

namespace IsReadable

theorem mono {depth more : Nat} {value : Json} (readable : IsReadable depth value)
    (deeper : depth ≤ more) : IsReadable more value :=
  ⟨readable.canonical, readable.plain.mono deeper⟩

theorem string {depth : Nat} (value : String) : IsReadable depth (.string value) :=
  ⟨.string value, .string value⟩

theorem ofNat_toNat (word : UInt32) (depth : Nat) : IsReadable depth (.ofNat word.toNat) :=
  ⟨.number _, isPlain_ofNat_toNat word depth⟩

theorem array {depth : Nat} {items : List Json} (each : ∀ item ∈ items, IsReadable depth item) :
    IsReadable (depth + 1) (.array items) :=
  ⟨.array fun item inside => (each item inside).canonical,
    .array fun item inside => (each item inside).plain⟩

theorem ofMembers {depth : Nat} {members : Members}
    (each : ∀ member ∈ members, IsReadable depth member.2) :
    IsReadable (depth + 1) (Json.ofMembers members) where
  canonical := .ofMembers fun member inside => (each member inside).canonical
  plain := .object fun member inside => (each member (Members.mem_of_mem_ofList inside)).plain

theorem ofOptionalMembers {depth : Nat}
    (each : ∀ part ∈ parts, ∀ stated ∈ part.2, IsReadable depth stated) :
    IsReadable (depth + 1) (Json.ofOptionalMembers parts) := by
  apply ofMembers
  rintro ⟨key, stated⟩ inside
  exact each _ (Members.mem_present_iff.mp inside) stated rfl

/-- A readable value is parsed back from its indented text, blanks after it apart. -/
theorem parse_pretty {value : Json} (readable : IsReadable Reader.deepest value) {after : String}
    (spaces : Reader.AreSpaces after.toList) : parse (value.pretty ++ after) = .ok value := by
  have text : (value.pretty ++ after).toList = printIndented 0 value ++ after.toList := by
    simp [pretty]
  have raw := readRaw_of_reads (Reader.reads_printIndented readable.plain 0) spaces
  rw [parse, read, text, raw]
  exact congrArg Except.ok readable.canonical.canonical_eq

end IsReadable

theorem get?_ofMembers {members : Members} (distinct : (members.map Prod.fst).Nodup)
    (key : String) : (ofMembers members).get? key = members.lookup key :=
  Members.lookup_eq_of_perm distinct (Members.perm_ofList distinct) key

theorem get?_ofOptionalMembers (distinct : (parts.map Prod.fst).Nodup) (key : String) :
    (ofOptionalMembers parts).get? key = (parts.lookup key).join :=
  (get?_ofMembers ((Members.keys_present_sublist parts).nodup distinct) key).trans
    (Members.lookup_present distinct)

theorem isObjectOf_ofOptionalMembers (distinct : (parts.map Prod.fst).Nodup) :
    IsObjectOf parts (ofOptionalMembers parts) :=
  ⟨_, rfl, Members.perm_ofList ((Members.keys_present_sublist parts).nodup distinct)⟩

/-- Every part of an object is found among the fields of a record that has the same names. -/
theorem IsObjectOf.exists_fields {value : Json} (written : IsObjectOf parts value)
    (distinct : (parts.map Prod.fst).Nodup) (typeName : String) :
    ∃ stated, value.fields typeName (parts.map Prod.fst) = .ok stated ∧
      ∀ key ∈ parts.map Prod.fst, stated.lookup key = (parts.lookup key).join := by
  obtain ⟨members, rfl, permuted⟩ := written
  have presentDistinct := (Members.keys_present_sublist parts).nodup distinct
  have membersDistinct : (members.map Prod.fst).Nodup :=
    (permuted.map Prod.fst).nodup_iff.mpr presentDistinct
  have knownDistinct :
      ((members.filter fun member => (parts.map Prod.fst).contains member.1).map Prod.fst).Nodup :=
    (List.filter_sublist.map Prod.fst).nodup membersDistinct
  refine ⟨_, fields_object_eq_ok.mpr ⟨knownDistinct, rfl⟩, ?_⟩
  intro key known
  rw [lookup_filter_contains known, Members.lookup_eq_of_perm presentDistinct permuted,
    Members.lookup_present distinct]

theorem IsObjectOf.isPlain {value : Json} (written : IsObjectOf parts value) {depth : Nat}
    (each : ∀ part ∈ parts, ∀ stated ∈ part.2, IsPlain depth stated) :
    IsPlain (depth + 1) value := by
  obtain ⟨members, rfl, permuted⟩ := written
  apply IsPlain.object
  rintro ⟨key, stated⟩ inside
  have part := Members.mem_present_iff.mp (permuted.mem_iff.mp inside)
  exact each _ part stated rfl

/-- An object of some parts has nothing under any other key. -/
theorem IsObjectOf.get?_eq_none {value : Json} (written : IsObjectOf parts value)
    (other : key ∉ parts.map Prod.fst) : value.get? key = none := by
  obtain ⟨members, rfl, permuted⟩ := written
  have absent : key ∉ members.map Prod.fst := fun stated => other
    ((Members.keys_present_sublist parts).subset ((permuted.map Prod.fst).mem_iff.mp stated))
  exact Members.lookup_eq_none_iff.mpr absent

theorem IsObjectOf.isObject {value : Json} (written : IsObjectOf parts value) :
    value.isObject := by
  obtain ⟨members, rfl, _⟩ := written
  rfl

theorem Fields.optional_of_lookup {α : Type} {stated : Fields} {name : String}
    {decode : Json → Decoded α} {part : Option Json} {result : Option α}
    (found : stated.lookup name = part)
    (decodes : Option.Rel (fun value result => decode value = .ok result ∧ value ≠ .null)
      part result) :
    stated.optional name decode = .ok result := by
  unfold Fields.optional
  rw [found]
  cases decodes with
  | none => rfl
  | some here =>
      obtain ⟨decoded, notNull⟩ := here
      split
      · next impossible => cases impossible
      · next same => exact absurd (Option.some.inj same) notNull
      · next same =>
          obtain rfl := Option.some.inj same
          rw [decoded]
          rfl

theorem optionRel_decodeString (text : Option String) :
    Option.Rel (fun value result => decodeString value = .ok result ∧ value ≠ .null)
      (text.map .string) text := by
  cases text with
  | none => exact .none
  | some text => exact .some ⟨rfl, Json.noConfusion⟩

end MarkupLint.Json
