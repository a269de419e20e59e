import MarkupLint.Proofs.Json.Tokens

/-!
# Reading back what was written

A text reads as a value if the reader takes it off the front of any text that goes on with something
that ends it.  Arrays and objects of readable parts are readable, with blanks between the parts or
without.  So both written forms of a value read as that value, as long as its integers have 64 bits
and it is not nested too deeply.
-/

namespace MarkupLint.Json

/-- A value that reads back from its written forms within some levels of nesting: there is no
floating point number in it, and its integers have 64 bits. -/
inductive IsPlain : (depth : Nat) → Json → Prop
  | null {depth : Nat} : IsPlain depth .null
  | bool {depth : Nat} (value : Bool) : IsPlain depth (.bool value)
  | integer {depth : Nat} {value : Int} (least : -9223372036854775808 ≤ value)
      (most : value ≤ Number.greatestWord) : IsPlain depth (.number (.integer value))
  | string {depth : Nat} (value : String) : IsPlain depth (.string value)
  | array {depth : Nat} {items : List Json} (each : ∀ item ∈ items, IsPlain depth item) :
      IsPlain (depth + 1) (.array items)
  | object {depth : Nat} {members : Members} (each : ∀ member ∈ members, IsPlain depth member.2) :
      IsPlain (depth + 1) (.object members)

theorem IsPlain.mono {depth more : Nat} {value : Json} (plain : IsPlain depth value)
    (deeper : depth ≤ more) : IsPlain more value := by
  induction plain generalizing more with
  | null => exact .null
  | bool value => exact .bool value
  | integer least most => exact .integer least most
  | string value => exact .string value
  | array each ih =>
      obtain ⟨more, rfl⟩ := Nat.exists_eq_add_of_le' (Nat.le_trans (Nat.le_add_left 1 _) deeper)
      exact .array fun item inside => ih item inside (Nat.le_of_succ_le_succ deeper)
  | object each ih =>
      obtain ⟨more, rfl⟩ := Nat.exists_eq_add_of_le' (Nat.le_trans (Nat.le_add_left 1 _) deeper)
      exact .object fun member inside => ih member inside (Nat.le_of_succ_le_succ deeper)

theorem print_array (items : List Json) :
    print (.array items) = '[' :: (printItems items ++ [']']) := rfl

theorem print_object (members : Members) :
    print (.object members) = '\x7b' :: (printMembers members ++ ['\x7d']) := rfl

theorem isPlain_ofNat_toNat (word : UInt32) (depth : Nat) : IsPlain depth (.ofNat word.toNat) := by
  have bound := word.toNat_lt
  have greatest : Number.greatestWord = 18446744073709551615 := rfl
  exact .integer (by omega) (by omega)

namespace Reader

/-- Whether a text begins as a value does: with neither a blank nor the end of an array. -/
def BeginsValue (text : List Char) : Prop :=
  ∃ first more, text = first :: more ∧ isSpace first = false ∧ first ≠ ']'

/-- Whether a text is read as a value, whatever follows it, and within some levels of nesting.  The
fuel is that of the whole text, so it may exceed what this part of it needs. -/
structure Reads (depth : Nat) (text : List Char) (value : Json) : Prop where
  begins : BeginsValue text
  reads : ∀ fuel rest, 2 * text.length ≤ fuel → EndsNumber rest →
    Reader.value fuel .whole depth (text ++ rest) = .ok (value, rest)

/-- Read an item and then the items after it. -/
def nextItem (fuel depth : Nat) (read : List Json) (text : List Char) : Outcome Json :=
  match value fuel .whole depth text with
  | .error fault => .error fault
  | .ok (item, rest) => items fuel .whole depth (item :: read) rest

/-- Read a member after its opening quote and then the members after it. -/
def nextMember (fuel depth : Nat) (read : Members) (text : List Char) : Outcome Json :=
  match stringBody false fuel [] text with
  | .error fault => .error fault
  | .ok (key, rest) =>
      match skipSpace rest with
      | [] => stop .endInObject []
      | ':' :: rest =>
          match value fuel .whole depth rest with
          | .error fault => .error fault
          | .ok (value, rest) => members fuel .whole depth ((key, value) :: read) rest
      | rest => stop .expectedColon rest

/-- Whether a text between brackets is read as one or more items. -/
structure ReadsItems (depth : Nat) (text : List Char) (items : List Json) : Prop where
  begins : BeginsValue text
  reads : ∀ fuel read gap rest, AreSpaces gap → 2 * text.length ≤ fuel →
    nextItem fuel depth read (text ++ (gap ++ ']' :: rest)) =
      .ok (.array (read.reverse ++ items), rest)

/-- Whether a text between braces, after its opening quote, is read as one or more members. -/
def ReadsMembers (depth : Nat) (text : List Char) (members : Members) : Prop :=
  ∀ fuel read gap rest, AreSpaces gap → 2 * text.length ≤ fuel →
    nextMember fuel depth read (text ++ (gap ++ '\x7d' :: rest)) =
      .ok (.object (read.reverse ++ members), rest)

theorem BeginsValue.append {text : List Char} (begins : BeginsValue text) (more : List Char) :
    BeginsValue (text ++ more) := by
  obtain ⟨first, rest, rfl, notSpace, notEnd⟩ := begins
  exact ⟨first, rest ++ more, rfl, notSpace, notEnd⟩

theorem BeginsValue.length_pos {text : List Char} (begins : BeginsValue text) :
    0 < text.length := by
  obtain ⟨first, rest, rfl, _⟩ := begins
  exact Nat.succ_pos _

variable {depth : Nat} {gap before after text : List Char}

/-! Parts of arrays and objects. -/

theorem items_close (depth fuel : Nat) (spaces : AreSpaces gap) (read : List Json) (rest : List Char) :
    items (fuel + 1) .whole depth read (gap ++ ']' :: rest) = .ok (.array read.reverse, rest) := by
  have skipped : skipSpace (gap ++ ']' :: rest) = ']' :: rest := by
    rw [skipSpace_append spaces, skipSpace_cons rfl]
  cases read <;> simp [items, skipped]

theorem items_first (depth fuel : Nat) (spaces : AreSpaces gap) (begins : BeginsValue text) :
    items (fuel + 1) .whole depth [] (gap ++ text) = nextItem fuel depth [] text := by
  obtain ⟨first, more, rfl, notSpace, notEnd⟩ := begins
  have skipped : skipSpace (gap ++ first :: more) = first :: more := by
    rw [skipSpace_append spaces, skipSpace_cons notSpace]
  simp only [items, skipped]
  split
  · next same => cases same
  · next same =>
      cases same
      exact absurd rfl notEnd
  · rfl
  · next impossible _ => cases impossible
  · next impossible _ _ _ => cases impossible

theorem items_comma (depth fuel : Nat) (before : AreSpaces gap) (spaces : AreSpaces after)
    (begins : BeginsValue text) (item : Json) (read : List Json) :
    items (fuel + 1) .whole depth (item :: read) (gap ++ ',' :: (after ++ text)) =
      nextItem fuel depth (item :: read) text := by
  obtain ⟨first, more, rfl, notSpace, notEnd⟩ := begins
  have skipped : skipSpace (gap ++ ',' :: (after ++ first :: more)) =
      ',' :: (after ++ first :: more) := by
    rw [skipSpace_append before, skipSpace_cons rfl]
  have skippedNext : skipSpace (after ++ first :: more) = first :: more := by
    rw [skipSpace_append spaces, skipSpace_cons notSpace]
  simp only [items, skipped, skippedNext]
  split
  · next same => cases same
  · next same =>
      cases same
      exact absurd rfl notEnd
  · rfl

theorem members_close (depth fuel : Nat) (spaces : AreSpaces gap) (read : Members) (rest : List Char) :
    members (fuel + 1) .whole depth read (gap ++ '\x7d' :: rest) =
      .ok (.object read.reverse, rest) := by
  have skipped : skipSpace (gap ++ '\x7d' :: rest) = '\x7d' :: rest := by
    rw [skipSpace_append spaces, skipSpace_cons rfl]
  cases read <;> simp [members, skipped]

theorem members_first (depth fuel : Nat) (spaces : AreSpaces gap) (text : List Char) :
    members (fuel + 1) .whole depth [] (gap ++ '"' :: text) = nextMember fuel depth [] text := by
  have skipped : skipSpace (gap ++ '"' :: text) = '"' :: text := by
    rw [skipSpace_append spaces, skipSpace_cons rfl]
  simp only [members, skipped]
  rfl

theorem members_comma (depth fuel : Nat) (before : AreSpaces gap) (spaces : AreSpaces after)
    (member : String × Json) (read : Members) (text : List Char) :
    members (fuel + 1) .whole depth (member :: read) (gap ++ ',' :: (after ++ '"' :: text)) =
      nextMember fuel depth (member :: read) text := by
  have skipped : skipSpace (gap ++ ',' :: (after ++ '"' :: text)) =
      ',' :: (after ++ '"' :: text) := by
    rw [skipSpace_append before, skipSpace_cons rfl]
  have skippedNext : skipSpace (after ++ '"' :: text) = '"' :: text := by
    rw [skipSpace_append spaces, skipSpace_cons rfl]
  simp only [members, skipped, skippedNext]
  rfl

theorem ReadsItems.single {item : Json} (reads : Reads depth text item) :
    ReadsItems depth text [item] where
  begins := reads.begins
  reads := by
    intro fuel read gap rest spaces enough
    have ends : EndsNumber (gap ++ ']' :: rest) :=
      (endsNumber_cons (by decide)).of_spaces spaces
    have present := reads.begins.length_pos
    obtain ⟨fuel, rfl⟩ := Nat.exists_eq_add_of_le' (by omega : 1 ≤ fuel)
    simp only [nextItem, reads.reads _ _ enough ends]
    rw [items_close depth fuel spaces, List.reverse_cons]

theorem ReadsItems.cons {item : Json} {others : List Json} {more : List Char}
    (reads : Reads depth text item) (readsMore : ReadsItems depth more others)
    (spaces : AreSpaces gap) :
    ReadsItems depth (text ++ ',' :: (gap ++ more)) (item :: others) where
  begins := reads.begins.append _
  reads := by
    intro fuel read last rest lastSpaces enough
    rw [List.length_append, List.length_cons, List.length_append] at enough
    have ends : EndsNumber (',' :: (gap ++ (more ++ (last ++ ']' :: rest)))) :=
      endsNumber_cons (by decide)
    have split : text ++ ',' :: (gap ++ more) ++ (last ++ ']' :: rest) =
        text ++ ',' :: (gap ++ (more ++ (last ++ ']' :: rest))) := by
      simp
    obtain ⟨fuel, rfl⟩ := Nat.exists_eq_add_of_le' (by omega : 1 ≤ fuel)
    rw [split, nextItem, reads.reads _ _ (by omega) ends]
    have comma := items_comma depth fuel areSpaces_nil spaces
      (readsMore.begins.append (last ++ ']' :: rest)) item read
    rw [List.nil_append] at comma
    simp only [comma]
    rw [readsMore.reads _ _ _ _ lastSpaces (by omega)]
    simp

theorem nextMember_of_reads {value : Json} (reads : Reads depth text value)
    (spaces : AreSpaces gap) (key : String) {fuel : Nat} (read : Members) {rest : List Char}
    (ends : EndsNumber rest)
    (enough : 2 * (quote key ++ ':' :: (gap ++ text)).length ≤ fuel + 2) :
    nextMember fuel depth read
        (key.toList.flatMap escape ++ '"' :: ':' :: (gap ++ (text ++ rest))) =
      members fuel .whole depth ((key, value) :: read) rest := by
  have keyLength := length_le_length_flatMap_escape key.toList
  simp only [quote, List.length_append, List.length_cons, List.length_nil] at enough
  have valueRead : Reader.value fuel .whole depth (gap ++ (text ++ rest)) = .ok (value, rest) := by
    obtain ⟨first, more, here, notSpace, _⟩ := reads.begins
    have now := reads.reads fuel rest (by omega) ends
    have present := reads.begins.length_pos
    obtain ⟨fuel, rfl⟩ := Nat.exists_eq_add_of_le' (by omega : 1 ≤ fuel)
    rw [Reader.value] at now ⊢
    rwa [skipSpace_append spaces]
  have room : key.toList.length < fuel := by omega
  have keyRead := stringBody_flatMap_escape key.toList room [] (':' :: (gap ++ (text ++ rest)))
  rw [List.reverse_nil, List.nil_append, String.ofList_toList] at keyRead
  simp only [nextMember, keyRead, skipSpace_cons (rfl : isSpace ':' = false), valueRead]

/-- The text of a member after its opening quote. -/
def memberText (key : String) (gap text : List Char) : List Char :=
  key.toList.flatMap escape ++ '"' :: ':' :: (gap ++ text)

theorem quote_append_eq_memberText (key : String) (gap text : List Char) :
    quote key ++ ':' :: (gap ++ text) = '"' :: memberText key gap text := by
  simp [quote, memberText]

theorem ReadsMembers.single {value : Json} (reads : Reads depth text value)
    (spaces : AreSpaces gap) (key : String) :
    ReadsMembers depth (memberText key gap text) [(key, value)] := by
  intro fuel read last rest lastSpaces enough
  have ends : EndsNumber (last ++ '\x7d' :: rest) :=
    (endsNumber_cons (by decide)).of_spaces lastSpaces
  have split : memberText key gap text ++ (last ++ '\x7d' :: rest) =
      key.toList.flatMap escape ++ '"' :: ':' :: (gap ++ (text ++ (last ++ '\x7d' :: rest))) := by
    simp [memberText]
  rw [split, nextMember_of_reads reads spaces key read ends]
  · have present : 1 ≤ fuel := by
      simp only [memberText, List.length_append, List.length_cons] at enough
      omega
    obtain ⟨fuel, rfl⟩ := Nat.exists_eq_add_of_le' present
    rw [members_close depth fuel lastSpaces, List.reverse_cons]
  · rw [quote_append_eq_memberText, List.length_cons]
    omega

theorem ReadsMembers.cons {value : Json} {others : Members} {more between : List Char}
    (reads : Reads depth text value) (spaces : AreSpaces gap) (key : String)
    (readsMore : ReadsMembers depth more others) (betweenSpaces : AreSpaces between) :
    ReadsMembers depth (memberText key gap (text ++ ',' :: (between ++ '"' :: more)))
      ((key, value) :: others) := by
  intro fuel read last rest lastSpaces enough
  simp only [memberText, List.length_append, List.length_cons] at enough
  have ends : EndsNumber (',' :: (between ++ '"' :: (more ++ (last ++ '\x7d' :: rest)))) :=
    endsNumber_cons (by decide)
  have split : memberText key gap (text ++ ',' :: (between ++ '"' :: more)) ++
        (last ++ '\x7d' :: rest) =
      key.toList.flatMap escape ++ '"' :: ':' ::
        (gap ++ (text ++ ',' :: (between ++ '"' :: (more ++ (last ++ '\x7d' :: rest))))) := by
    simp [memberText]
  rw [split, nextMember_of_reads reads spaces key read ends]
  · obtain ⟨fuel, rfl⟩ := Nat.exists_eq_add_of_le' (by omega : 1 ≤ fuel)
    have comma := members_comma depth fuel areSpaces_nil betweenSpaces (key, value) read
      (more ++ (last ++ '\x7d' :: rest))
    rw [List.nil_append] at comma
    rw [comma, readsMore _ _ _ _ lastSpaces (by omega)]
    simp
  · simp only [quote, List.length_append, List.length_cons, List.length_nil]
    omega

/-! Values. -/

theorem Reads.emptyArray : Reads (depth + 1) ['[', ']'] (.array []) where
  begins := ⟨'[', [']'], rfl, rfl, by decide⟩
  reads := by
    intro fuel rest enough ends
    obtain ⟨fuel, rfl⟩ := Nat.exists_eq_add_of_le' enough
    exact items_close depth (fuel + 2) areSpaces_nil [] rest

theorem Reads.emptyObject : Reads (depth + 1) ['\x7b', '\x7d'] (.object []) where
  begins := ⟨'\x7b', ['\x7d'], rfl, rfl, by decide⟩
  reads := by
    intro fuel rest enough ends
    obtain ⟨fuel, rfl⟩ := Nat.exists_eq_add_of_le' enough
    exact members_close depth (fuel + 2) areSpaces_nil [] rest

theorem Reads.array {items : List Json} (reads : ReadsItems depth text items)
    (spaces : AreSpaces before) (afterSpaces : AreSpaces after) :
    Reads (depth + 1) ('[' :: (before ++ text ++ after ++ [']'])) (.array items) where
  begins := ⟨'[', _, rfl, rfl, by decide⟩
  reads := by
    intro fuel rest enough ends
    simp only [List.length_cons, List.length_append, List.length_nil] at enough
    obtain ⟨fuel, rfl⟩ := Nat.exists_eq_add_of_le' (by omega : 2 ≤ fuel)
    have split : '[' :: (before ++ text ++ after ++ [']']) ++ rest =
        '[' :: (before ++ (text ++ (after ++ ']' :: rest))) := by
      simp
    rw [split]
    have opened : Reader.value (fuel + 2) .whole (depth + 1)
        ('[' :: (before ++ (text ++ (after ++ ']' :: rest)))) =
          Reader.items (fuel + 1) .whole depth [] (before ++ (text ++ (after ++ ']' :: rest))) :=
      rfl
    rw [opened, items_first depth fuel spaces (reads.begins.append _),
      reads.reads _ _ _ _ afterSpaces (by omega)]
    rfl

theorem Reads.object {members : Members} (reads : ReadsMembers depth text members)
    (spaces : AreSpaces before) (afterSpaces : AreSpaces after) :
    Reads (depth + 1) ('\x7b' :: (before ++ '"' :: text ++ after ++ ['\x7d']))
      (.object members) where
  begins := ⟨'\x7b', _, rfl, rfl, by decide⟩
  reads := by
    intro fuel rest enough ends
    simp only [List.length_cons, List.length_append, List.length_nil] at enough
    obtain ⟨fuel, rfl⟩ := Nat.exists_eq_add_of_le' (by omega : 2 ≤ fuel)
    have split : '\x7b' :: (before ++ '"' :: text ++ after ++ ['\x7d']) ++ rest =
        '\x7b' :: (before ++ '"' :: (text ++ (after ++ '\x7d' :: rest))) := by
      simp
    rw [split]
    have opened : Reader.value (fuel + 2) .whole (depth + 1)
        ('\x7b' :: (before ++ '"' :: (text ++ (after ++ '\x7d' :: rest)))) =
          Reader.members (fuel + 1) .whole depth []
            (before ++ '"' :: (text ++ (after ++ '\x7d' :: rest))) :=
      rfl
    rw [opened, members_first depth fuel spaces, reads _ _ _ _ afterSpaces (by omega)]
    rfl

theorem Reads.null : Reads depth (print .null) .null where
  begins := ⟨'n', ['u', 'l', 'l'], rfl, rfl, by decide⟩
  reads := by
    intro fuel rest enough ends
    obtain ⟨fuel, rfl⟩ := Nat.exists_eq_add_of_le' enough
    rfl

theorem Reads.bool (value : Bool) : Reads depth (print (.bool value)) (.bool value) where
  begins := by
    cases value with
    | false => exact ⟨'f', ['a', 'l', 's', 'e'], rfl, rfl, by decide⟩
    | true => exact ⟨'t', ['r', 'u', 'e'], rfl, rfl, by decide⟩
  reads := by
    intro fuel rest enough ends
    cases value <;> obtain ⟨fuel, rfl⟩ := Nat.exists_eq_add_of_le' enough <;> rfl

theorem Reads.string (value : String) : Reads depth (quote value) (.string value) where
  begins := ⟨'"', _, rfl, rfl, by decide⟩
  reads := by
    intro fuel rest enough ends
    have length := length_le_length_flatMap_escape value.toList
    simp only [quote, List.length_cons, List.length_append, List.length_nil] at enough
    obtain ⟨fuel, rfl⟩ := Nat.exists_eq_add_of_le' (by omega : 1 ≤ fuel)
    have room : value.toList.length < fuel := by omega
    have body := stringBody_flatMap_escape value.toList room [] rest
    rw [List.reverse_nil, List.nil_append, String.ofList_toList] at body
    have split : quote value ++ rest = '"' :: (value.toList.flatMap escape ++ '"' :: rest) := by
      simp [quote]
    rw [split]
    have opened : Reader.value (fuel + 1) .whole depth
        ('"' :: (value.toList.flatMap escape ++ '"' :: rest)) =
          (stringBody false fuel [] (value.toList.flatMap escape ++ '"' :: rest)).map
            fun read => (Json.string read.1, read.2) :=
      rfl
    rw [opened, body]
    rfl

theorem value_of_digit {first : Char} {more : List Char} (digit : isDigit first = true)
    (fuel : Nat) (demand : Demand) :
    Reader.value (fuel + 1) demand depth (first :: more) =
      numberOf demand false (first :: more) := by
  rw [Reader.value, skipSpace_cons (isSpace_eq_false_of_isDigit digit)]
  -- No other kind of value begins with a digit.
  split
  · next same => cases same
  · next same => cases same; exact absurd digit (by decide)
  · next same => cases same; exact absurd digit (by decide)
  · next same => cases same; exact absurd digit (by decide)
  · next same => cases same; exact absurd digit (by decide)
  · next same => cases same; exact absurd digit (by decide)
  · next same => cases same; exact absurd digit (by decide)
  · next same => cases same; exact absurd digit (by decide)
  · next same =>
      cases same
      rw [if_pos digit]

theorem reads_toDigits {magnitude : Nat} (fits : magnitude ≤ Number.greatestWord) :
    Reads depth (Nat.toDigits 10 magnitude) (.number (.integer magnitude)) := by
  have areDigits : ∀ character ∈ Nat.toDigits 10 magnitude, isDigit character = true :=
    fun character => isDigit_eq_true_of_mem_toDigits
  have present : Nat.toDigits 10 magnitude ≠ [] := Nat.toDigits_ne_nil
  obtain ⟨first, more, digits⟩ := List.exists_cons_of_ne_nil present
  have digit : isDigit first = true := areDigits first (by simp [digits])
  constructor
  · refine ⟨first, more, digits, isSpace_eq_false_of_isDigit digit, ?_⟩
    rintro rfl
    exact absurd digit (by decide)
  · intro fuel rest enough ends
    rw [digits, List.length_cons] at enough
    obtain ⟨fuel, rfl⟩ := Nat.exists_eq_add_of_le' (by omega : 1 ≤ fuel)
    have read := number_toDigits fits false ends
    rw [digits, List.cons_append] at read ⊢
    rw [value_of_digit digit, numberOf, read]
    rfl

theorem reads_minus_toDigits {magnitude : Nat} (positive : magnitude ≠ 0)
    (fits : magnitude ≤ 9223372036854775808) :
    Reads depth ('-' :: Nat.toDigits 10 magnitude) (.number (.integer (-magnitude))) where
  begins := ⟨'-', _, rfl, rfl, by decide⟩
  reads := by
    intro fuel rest enough ends
    rw [List.length_cons] at enough
    obtain ⟨fuel, rfl⟩ := Nat.exists_eq_add_of_le' (by omega : 1 ≤ fuel)
    have word : magnitude ≤ Number.greatestWord := Nat.le_trans fits (by decide)
    have read := number_toDigits word true ends
    have finished : finishInteger true magnitude rest =
        .ok (.number (.integer (-magnitude)), rest) := by
      have notZero : (magnitude != 0) = true := bne_iff_ne.mpr positive
      simp only [finishInteger, notZero, fits, decide_true, Bool.and_self, if_true,
        Bool.not_true, Bool.false_eq_true, if_false]
    have opened : Reader.value (fuel + 1) .whole depth
        ('-' :: Nat.toDigits 10 magnitude ++ rest) =
          numberOf .whole true (Nat.toDigits 10 magnitude ++ rest) :=
      rfl
    rw [opened, numberOf, read, finished]

theorem Reads.integer {value : Int} (least : -9223372036854775808 ≤ value)
    (most : value ≤ Number.greatestWord) :
    Reads depth (print (.number (.integer value))) (.number (.integer value)) := by
  cases value with
  | ofNat magnitude =>
      have printed : print (.number (.integer (.ofNat magnitude))) = Nat.toDigits 10 magnitude := by
        change (Int.repr (.ofNat magnitude)).toList = _
        rw [Int.repr, Nat.toList_repr]
      rw [printed]
      exact reads_toDigits (Int.ofNat_le.mp most)
  | negSucc predecessor =>
      have printed : print (.number (.integer (.negSucc predecessor))) =
          '-' :: Nat.toDigits 10 (predecessor + 1) := by
        change (Int.repr (.negSucc predecessor)).toList = _
        simp [Int.repr]
      rw [printed]
      exact reads_minus_toDigits (Nat.succ_ne_zero predecessor) (by omega)

/-- Texts with a comma and a gap after each but the last. -/
def separated (gap : List Char) : List (List Char) → List Char
  | [] => []
  | [text] => text
  | text :: next :: rest => text ++ ',' :: (gap ++ separated gap (next :: rest))

theorem readsItems_separated {items : List Json} (present : items ≠ []) (spaces : AreSpaces gap)
    {form : Json → List Char} (each : ∀ item ∈ items, Reads depth (form item) item) :
    ReadsItems depth (separated gap (items.map form)) items := by
  induction items with
  | nil => exact absurd rfl present
  | cons item rest ih =>
      rw [List.forall_mem_cons] at each
      cases rest with
      | nil => exact .single each.1
      | cons next more =>
          have others := ih (List.cons_ne_nil next more) each.2
          exact .cons each.1 others spaces

theorem readsMembers_separated {members : Members} (present : members ≠ [])
    (spaces : AreSpaces gap) (afterSpaces : AreSpaces after) {form : Json → List Char}
    (each : ∀ member ∈ members, Reads depth (form member.2) member.2) :
    ∃ text, separated gap (members.map fun member =>
        quote member.1 ++ ':' :: (after ++ form member.2)) = '"' :: text ∧
      ReadsMembers depth text members := by
  induction members with
  | nil => exact absurd rfl present
  | cons member rest ih =>
      obtain ⟨key, value⟩ := member
      rw [List.forall_mem_cons] at each
      cases rest with
      | nil =>
          refine ⟨memberText key after (form value), ?_, .single each.1 afterSpaces key⟩
          exact quote_append_eq_memberText key after (form value)
      | cons next more =>
          obtain ⟨text, written, others⟩ := ih (List.cons_ne_nil next more) each.2
          refine ⟨_, ?_, .cons each.1 afterSpaces key others spaces⟩
          rw [← quote_append_eq_memberText, ← written]
          simp [separated]

theorem printItems_eq_separated (items : List Json) :
    printItems items = separated [] (items.map print) := by
  induction items with
  | nil => rfl
  | cons item rest ih =>
      cases rest with
      | nil => rfl
      | cons next more => rw [printItems, ih]; rfl

theorem printMembers_eq_separated (members : Members) :
    printMembers members =
      separated [] (members.map fun member => quote member.1 ++ ':' :: ([] ++ print member.2)) := by
  induction members with
  | nil => rfl
  | cons member rest ih =>
      cases rest with
      | nil => rfl
      | cons next more =>
          rw [printMembers, ih]
          simp [separated]

theorem printIndentedItems_eq_separated (level : Nat) (items : List Json) :
    printIndentedItems level items =
      separated (lineBreak level) (items.map (printIndented level)) := by
  induction items with
  | nil => rfl
  | cons item rest ih =>
      cases rest with
      | nil => rfl
      | cons next more => rw [printIndentedItems, ih]; rfl

theorem printIndentedMembers_eq_separated (level : Nat) (members : Members) :
    printIndentedMembers level members = separated (lineBreak level)
      (members.map fun member => quote member.1 ++ ':' :: ([' '] ++ printIndented level member.2)) := by
  induction members with
  | nil => rfl
  | cons member rest ih =>
      cases rest with
      | nil => rfl
      | cons next more =>
          rw [printIndentedMembers, ih]
          simp [separated]

/-- The form without blanks reads as the value. -/
theorem reads_print {value : Json} (plain : IsPlain depth value) :
    Reads depth (print value) value := by
  induction plain with
  | null => exact .null
  | bool value => exact .bool value
  | integer least most => exact .integer least most
  | string value => exact .string value
  | @array depth items each ih =>
      cases items with
      | nil => exact .emptyArray
      | cons item rest =>
          have items := readsItems_separated (List.cons_ne_nil item rest) areSpaces_nil ih
          rw [← printItems_eq_separated] at items
          have whole := Reads.array items areSpaces_nil areSpaces_nil
          rw [List.nil_append, List.append_nil] at whole
          rwa [print_array]
  | @object depth members each ih =>
      cases members with
      | nil => exact .emptyObject
      | cons member rest =>
          obtain ⟨text, printed, members⟩ := readsMembers_separated (List.cons_ne_nil member rest)
            areSpaces_nil areSpaces_nil ih
          rw [← printMembers_eq_separated] at printed
          have whole := Reads.object members areSpaces_nil areSpaces_nil
          rw [List.nil_append, List.append_nil] at whole
          rwa [print_object, printed]

theorem areSpaces_lineBreak (level : Nat) : AreSpaces (lineBreak level) := by
  intro character inside
  rcases List.mem_cons.mp inside with rfl | blank
  · rfl
  · rw [List.eq_of_mem_replicate blank]
    rfl

theorem areSpaces_blank : AreSpaces [' '] := by
  intro character inside
  rw [List.mem_singleton.mp inside]
  rfl

/-- The form with a line for each part reads as the value. -/
theorem reads_printIndented {value : Json} (plain : IsPlain depth value) (level : Nat) :
    Reads depth (printIndented level value) value := by
  induction plain generalizing level with
  | null => exact .null
  | bool value => exact .bool value
  | integer least most => exact .integer least most
  | string value => exact .string value
  | @array depth items each ih =>
      cases items with
      | nil => exact .emptyArray
      | cons item rest =>
          have items := readsItems_separated (List.cons_ne_nil item rest)
            (areSpaces_lineBreak (level + 1)) fun item inside => ih item inside (level + 1)
          rw [← printIndentedItems_eq_separated] at items
          exact .array items (areSpaces_lineBreak (level + 1)) (areSpaces_lineBreak level)
  | @object depth members each ih =>
      cases members with
      | nil => exact .emptyObject
      | cons member rest =>
          obtain ⟨text, printed, members⟩ := readsMembers_separated (List.cons_ne_nil member rest)
            (areSpaces_lineBreak (level + 1)) areSpaces_blank
            fun member inside => ih member inside (level + 1)
          rw [← printIndentedMembers_eq_separated] at printed
          have whole := Reads.object members (areSpaces_lineBreak (level + 1))
            (areSpaces_lineBreak level)
          rw [printIndented, printed]
          exact whole

end Reader

open Reader

theorem readRaw_of_reads {text after : List Char} {value : Json}
    (reads : Reads deepest text value) (spaces : AreSpaces after) :
    readRaw .whole (text ++ after) = .ok value := by
  have ends : EndsNumber after := by
    have last := endsNumber_nil.of_spaces spaces
    rwa [List.append_nil] at last
  have first : readFirst .whole (text ++ after) = .ok (value, after) := by
    have enough : 2 * text.length ≤ 2 * (text ++ after).length + 2 := by
      rw [List.length_append]
      omega
    simp only [readFirst, reads.reads _ after enough ends]
  have blank : skipSpace after = [] := by
    have skipped := skipSpace_append spaces []
    rwa [List.append_nil] at skipped
  simp only [readRaw, first, bind, Except.bind, checkEnd, blank]
  rfl

theorem readRaw_print {value : Json} (plain : IsPlain deepest value) {after : List Char}
    (spaces : AreSpaces after) : readRaw .whole (print value ++ after) = .ok value :=
  readRaw_of_reads (reads_print plain) spaces

end MarkupLint.Json
