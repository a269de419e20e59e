import MarkupLint.Proofs.Json.Parts

/-!
# What a demand leaves out

A text is looked at less closely where nothing is demanded of it.  If a demand skips no part of a
value, a text that reads as that value reads as it under the demand too.
-/

namespace MarkupLint.Json

/-- Whether a demand skips no part of a value. -/
inductive Demand.Covers : Demand → Json → Prop
  | null {demand : Demand} (asked : demand.isSkipped = false) : Covers demand .null
  | bool {demand : Demand} (asked : demand.isSkipped = false) (value : Bool) :
      Covers demand (.bool value)
  | number {demand : Demand} (asked : demand.isSkipped = false) (value : Number) :
      Covers demand (.number value)
  | string {demand : Demand} (asked : demand.isSkipped = false) (value : String) :
      Covers demand (.string value)
  | array {demand : Demand} {items : List Json} (asked : demand.isSkipped = false)
      (each : ∀ (index : Nat) (item : Json), items[index]? = some item →
        Covers (demand.item index) item) :
      Covers demand (.array items)
  | object {demand : Demand} {members : Members} (asked : demand.isSkipped = false)
      (each : ∀ member ∈ members, Covers (demand.member member.1) member.2) :
      Covers demand (.object members)

theorem Demand.Covers.isSkipped_eq_false {demand : Demand} {value : Json}
    (covers : demand.Covers value) : demand.isSkipped = false := by
  cases covers <;> assumption

namespace Reader

/-- Go on after the items read so far, taking the next one in a given way. -/
def afterItems (read : List Json) (next : List Char → Outcome Json) (text : List Char) :
    Outcome Json :=
  match read, skipSpace text with
  | _, [] => stop .endInArray []
  | _, ']' :: rest => .ok (.array read.reverse, rest)
  | [], rest => next rest
  | _ :: _, ',' :: rest =>
      match skipSpace rest with
      | [] => stop .endInValue []
      | ']' :: rest => stop .trailingComma (']' :: rest)
      | rest => next rest
  | _ :: _, rest => stop .expectedArrayEnd rest

/-- Go on after the members read so far, taking the next one in a given way. -/
def afterMembers (read : Members) (next : List Char → Outcome Json) (text : List Char) :
    Outcome Json :=
  match read, skipSpace text with
  | _, [] => stop .endInObject []
  | _, '\x7d' :: rest => .ok (.object read.reverse, rest)
  | [], '"' :: rest => next rest
  | [], rest => stop .keyNotString rest
  | _ :: _, ',' :: rest =>
      match skipSpace rest with
      | [] => stop .endInValue []
      | '"' :: rest => next rest
      | '\x7d' :: rest => stop .trailingComma ('\x7d' :: rest)
      | rest => stop .keyNotString rest
  | _ :: _, rest => stop .expectedObjectEnd rest

/-- Take the next item under a demand, and then the items after it. -/
def takeItem (fuel : Nat) (demand : Demand) (depth : Nat) (read : List Json) (text : List Char) :
    Outcome Json :=
  match value fuel (demand.item read.length) depth text with
  | .error fault => .error fault
  | .ok (item, rest) => items fuel demand depth (item :: read) rest

/-- Take the next member under a demand, after its opening quote, and then the members after it. -/
def takeMember (fuel : Nat) (demand : Demand) (depth : Nat) (read : Members) (text : List Char) :
    Outcome Json :=
  match stringBody demand.isSkipped fuel [] text with
  | .error fault => .error fault
  | .ok (key, rest) =>
      match skipSpace rest with
      | [] => stop .endInObject []
      | ':' :: rest =>
          match value fuel (demand.member key) depth rest with
          | .error fault => .error fault
          | .ok (value, rest) => members fuel demand depth ((key, value) :: read) rest
      | rest => stop .expectedColon rest

section Steps

variable (fuel : Nat) (demand : Demand) (depth : Nat)

theorem items_succ (read : List Json) (text : List Char) :
    items (fuel + 1) demand depth read text =
      afterItems read (takeItem fuel demand depth read) text := by
  unfold items
  rfl

theorem members_succ (read : Members) (text : List Char) :
    members (fuel + 1) demand depth read text =
      afterMembers read (takeMember fuel demand depth read) text := by
  unfold members
  rfl

end Steps

/-- After the items read so far the text is at fault, or the array ends, or another item comes. -/
theorem afterItems_cases (read : List Json) (text : List Char) :
    (∃ fault, ∀ next, afterItems read next text = .error fault) ∨
    (∃ rest, ∀ next, afterItems read next text = .ok (.array read.reverse, rest)) ∨
    ∃ rest, ∀ next, afterItems read next text = next rest := by
  unfold afterItems
  cases skipSpace text with
  | nil => exact .inl ⟨_, fun _ => rfl⟩
  | cons first more =>
      by_cases closes : first = ']'
      · subst closes
        exact .inr (.inl ⟨more, fun _ => by simp⟩)
      cases read with
      | nil => exact .inr (.inr ⟨first :: more, fun _ => by simp [closes]⟩)
      | cons item earlier =>
          by_cases comma : first = ','
          · subst comma
            cases skipped : skipSpace more with
            | nil => exact .inl ⟨_, fun _ => by simp only [skipped]; rfl⟩
            | cons second more =>
                by_cases trails : second = ']'
                · subst trails
                  exact .inl ⟨_, fun _ => by simp only [skipped]; rfl⟩
                · exact .inr (.inr ⟨second :: more, fun _ => by simp [skipped, trails]⟩)
          · exact .inl ⟨_, fun _ => by simp [closes, comma]; rfl⟩

/-- After the members read so far the text is at fault, or the object ends, or another member
comes. -/
theorem afterMembers_cases (read : Members) (text : List Char) :
    (∃ fault, ∀ next, afterMembers read next text = .error fault) ∨
    (∃ rest, ∀ next, afterMembers read next text = .ok (.object read.reverse, rest)) ∨
    ∃ rest, ∀ next, afterMembers read next text = next rest := by
  unfold afterMembers
  cases skipSpace text with
  | nil => exact .inl ⟨_, fun _ => rfl⟩
  | cons first more =>
      by_cases closes : first = '\x7d'
      · subst closes
        exact .inr (.inl ⟨more, fun _ => by simp⟩)
      cases read with
      | nil =>
          by_cases opens : first = '"'
          · subst opens
            exact .inr (.inr ⟨more, fun _ => rfl⟩)
          · exact .inl ⟨_, fun _ => by simp [closes, opens]; rfl⟩
      | cons member earlier =>
          by_cases comma : first = ','
          · subst comma
            cases skipped : skipSpace more with
            | nil => exact .inl ⟨_, fun _ => by simp only [skipped]; rfl⟩
            | cons second more =>
                by_cases opens : second = '"'
                · subst opens
                  exact .inr (.inr ⟨more, fun _ => by simp only [skipped]⟩)
                by_cases trails : second = '\x7d'
                · subst trails
                  exact .inl ⟨_, fun _ => by simp only [skipped]; rfl⟩
                · exact .inl ⟨_, fun _ => by simp [skipped, opens, trails]; rfl⟩
          · exact .inl ⟨_, fun _ => by simp [closes, comma]; rfl⟩

section Parts

variable {fuel : Nat} {demand : Demand} {depth : Nat} {outcome : Json × List Char}

theorem takeItem_eq_ok {read : List Json} {text : List Char} :
    takeItem fuel demand depth read text = .ok outcome ↔
      ∃ item rest, value fuel (demand.item read.length) depth text = .ok (item, rest) ∧
        items fuel demand depth (item :: read) rest = .ok outcome := by
  unfold takeItem
  constructor
  · intro taken
    split at taken
    · cases taken
    next item rest here => exact ⟨item, rest, here, taken⟩
  · rintro ⟨item, rest, here, taken⟩
    simp only [here, taken]

theorem takeMember_eq_ok {read : Members} {text : List Char} :
    takeMember fuel demand depth read text = .ok outcome ↔
      ∃ key more rest stated after,
        stringBody demand.isSkipped fuel [] text = .ok (key, more) ∧
        skipSpace more = ':' :: rest ∧
        value fuel (demand.member key) depth rest = .ok (stated, after) ∧
        members fuel demand depth ((key, stated) :: read) after = .ok outcome := by
  unfold takeMember
  constructor
  · intro taken
    split at taken
    · cases taken
    next key more body =>
      split at taken
      · cases taken
      next rest colon =>
        split at taken
        · cases taken
        next stated after here => exact ⟨key, more, rest, stated, after, body, colon, here, taken⟩
      · cases taken
  · rintro ⟨key, more, rest, stated, after, body, colon, here, taken⟩
    simp only [body, colon, here, taken]

/-- The items of an array begin with those read before. -/
theorem exists_items_of_ok {read : List Json} {text : List Char}
    (reads : items fuel demand depth read text = .ok outcome) :
    ∃ later, outcome.1 = .array (read.reverse ++ later) := by
  induction fuel generalizing read text with
  | zero => cases reads
  | succ fuel ih =>
      rw [items_succ] at reads
      obtain ⟨fault, stops⟩ | ⟨rest, closes⟩ | ⟨rest, goes⟩ := afterItems_cases read text
      · rw [stops] at reads
        cases reads
      · rw [closes] at reads
        cases reads
        exact ⟨[], by rw [List.append_nil]⟩
      · rw [goes] at reads
        obtain ⟨item, after, _, more⟩ := takeItem_eq_ok.mp reads
        obtain ⟨later, whole⟩ := ih more
        exact ⟨item :: later, by simpa using whole⟩

/-- The members of an object begin with those read before. -/
theorem exists_members_of_ok {read : Members} {text : List Char}
    (reads : members fuel demand depth read text = .ok outcome) :
    ∃ later, outcome.1 = .object (read.reverse ++ later) := by
  induction fuel generalizing read text with
  | zero => cases reads
  | succ fuel ih =>
      rw [members_succ] at reads
      obtain ⟨fault, stops⟩ | ⟨rest, closes⟩ | ⟨rest, goes⟩ := afterMembers_cases read text
      · rw [stops] at reads
        cases reads
      · rw [closes] at reads
        cases reads
        exact ⟨[], by rw [List.append_nil]⟩
      · rw [goes] at reads
        obtain ⟨key, _, _, stated, after, _, _, _, more⟩ := takeMember_eq_ok.mp reads
        obtain ⟨later, whole⟩ := ih more
        exact ⟨(key, stated) :: later, by simpa using whole⟩

end Parts

section Asked

variable {demand : Demand}

theorem deeper_of_asked (asked : demand.isSkipped = false) (depth : Nat) :
    deeper demand depth = deeper .whole depth := by
  have whole : Demand.isSkipped .whole = false := rfl
  rw [deeper.eq_def, asked, deeper.eq_def, whole]

theorem numberOf_of_asked (asked : demand.isSkipped = false) (negative : Bool)
    (text : List Char) : numberOf demand negative text = numberOf .whole negative text := by
  rw [numberOf, asked]
  rfl

end Asked

/-- With some fuel, what is read when all is demanded is read under any demand that covers it. -/
structure CoveredAlike (fuel : Nat) : Prop where
  value : ∀ {demand : Demand} {depth : Nat} {text : List Char} {outcome : Json × List Char},
    demand.Covers outcome.1 → Reader.value fuel .whole depth text = .ok outcome →
      Reader.value fuel demand depth text = .ok outcome
  items : ∀ {demand : Demand} {depth : Nat} {read : List Json} {text : List Char}
      {outcome : Json × List Char},
    demand.Covers outcome.1 → Reader.items fuel .whole depth read text = .ok outcome →
      Reader.items fuel demand depth read text = .ok outcome
  members : ∀ {demand : Demand} {depth : Nat} {read : Members} {text : List Char}
      {outcome : Json × List Char},
    demand.Covers outcome.1 → Reader.members fuel .whole depth read text = .ok outcome →
      Reader.members fuel demand depth read text = .ok outcome

namespace CoveredAlike

variable {fuel : Nat} {demand : Demand} {depth : Nat} {text : List Char}
  {outcome : Json × List Char}

theorem takeItem (alike : CoveredAlike fuel) {read : List Json}
    (covers : demand.Covers outcome.1)
    (taken : Reader.takeItem fuel .whole depth read text = .ok outcome) :
    Reader.takeItem fuel demand depth read text = .ok outcome := by
  obtain ⟨item, rest, here, more⟩ := takeItem_eq_ok.mp taken
  obtain ⟨later, whole⟩ := exists_items_of_ok more
  have covered : (demand.item read.length).Covers item := by
    rw [whole] at covers
    cases covers with
    | array asked each => exact each _ item (by simp)
  exact takeItem_eq_ok.mpr ⟨item, rest, alike.value covered here, alike.items covers more⟩

theorem takeMember (alike : CoveredAlike fuel) {read : Members}
    (covers : demand.Covers outcome.1)
    (taken : Reader.takeMember fuel .whole depth read text = .ok outcome) :
    Reader.takeMember fuel demand depth read text = .ok outcome := by
  obtain ⟨key, more, rest, stated, after, body, colon, here, others⟩ :=
    takeMember_eq_ok.mp taken
  obtain ⟨later, whole⟩ := exists_members_of_ok others
  have covered : (demand.member key).Covers stated := by
    rw [whole] at covers
    cases covers with
    | object asked each => exact each (key, stated) (by simp)
  have body : stringBody demand.isSkipped fuel [] text = .ok (key, more) := by
    rw [covers.isSkipped_eq_false]
    exact body
  exact takeMember_eq_ok.mpr ⟨key, more, rest, stated, after, body, colon,
    alike.value covered here, alike.members covers others⟩

theorem value_succ (alike : CoveredAlike fuel) (covers : demand.Covers outcome.1)
    (reads : Reader.value (fuel + 1) .whole depth text = .ok outcome) :
    Reader.value (fuel + 1) demand depth text = .ok outcome := by
  have asked := covers.isSkipped_eq_false
  unfold Reader.value at reads ⊢
  simp only [deeper_of_asked asked, numberOf_of_asked asked, asked]
  generalize skipSpace text = skipped at reads ⊢
  revert reads
  split
  -- Only the texts of arrays and objects have parts that are read under another demand.
  case h_7 =>
    intro reads
    cases opened : deeper .whole depth with
    | none =>
        simp only [opened] at reads
        cases reads
    | some inner =>
        simp only [opened] at reads ⊢
        exact alike.items covers reads
  case h_8 =>
    intro reads
    cases opened : deeper .whole depth with
    | none =>
        simp only [opened] at reads
        cases reads
    | some inner =>
        simp only [opened] at reads ⊢
        exact alike.members covers reads
  all_goals exact id

theorem items_succ (alike : CoveredAlike fuel) {read : List Json}
    (covers : demand.Covers outcome.1)
    (reads : Reader.items (fuel + 1) .whole depth read text = .ok outcome) :
    Reader.items (fuel + 1) demand depth read text = .ok outcome := by
  rw [Reader.items_succ] at reads ⊢
  obtain ⟨fault, stops⟩ | ⟨rest, closes⟩ | ⟨rest, goes⟩ := afterItems_cases read text
  · rw [stops] at reads
    cases reads
  · rwa [closes] at reads ⊢
  · rw [goes] at reads ⊢
    exact alike.takeItem covers reads

theorem members_succ (alike : CoveredAlike fuel) {read : Members}
    (covers : demand.Covers outcome.1)
    (reads : Reader.members (fuel + 1) .whole depth read text = .ok outcome) :
    Reader.members (fuel + 1) demand depth read text = .ok outcome := by
  rw [Reader.members_succ] at reads ⊢
  obtain ⟨fault, stops⟩ | ⟨rest, closes⟩ | ⟨rest, goes⟩ := afterMembers_cases read text
  · rw [stops] at reads
    cases reads
  · rwa [closes] at reads ⊢
  · rw [goes] at reads ⊢
    exact alike.takeMember covers reads

end CoveredAlike

theorem coveredAlike (fuel : Nat) : CoveredAlike fuel := by
  induction fuel with
  | zero =>
      constructor <;>
      · intros
        contradiction
  | succ fuel ih => exact ⟨ih.value_succ, ih.items_succ, ih.members_succ⟩

end Reader

/-- A text that reads as a value reads as it under every demand that skips no part of the value. -/
theorem readRaw_of_covers {demand : Demand} {text : List Char} {value : Json}
    (covers : demand.Covers value) (reads : readRaw .whole text = .ok value) :
    readRaw demand text = .ok value := by
  unfold readRaw readFirst at reads ⊢
  cases first : Reader.value (2 * text.length + 2) .whole Reader.deepest text with
  | error stopped =>
      rw [first] at reads
      cases reads
  | ok outcome =>
      rw [first] at reads
      obtain ⟨stated, rest⟩ := outcome
      obtain rfl : stated = value := by
        cases ended : checkEnd text rest with
        | error fault => simp [bind, Except.bind, ended] at reads
        | ok => simpa [bind, Except.bind, ended, pure, Except.pure] using reads
      rw [(Reader.coveredAlike _).value covers first]
      exact reads

/-- A record covers an object of some parts if it covers each of them. -/
theorem IsObjectOf.covers {fields : List (String × Demand)} {parts : List (String × Option Json)}
    {value : Json} (written : IsObjectOf parts value)
    (each : ∀ part ∈ parts, ∀ stated ∈ part.2,
      ((Demand.record fields).member part.1).Covers stated) :
    (Demand.record fields).Covers value := by
  obtain ⟨members, rfl, permuted⟩ := written
  refine .object rfl ?_
  rintro ⟨key, stated⟩ inside
  have part := Members.mem_present_iff.mp (permuted.mem_iff.mp inside)
  exact each _ part stated rfl

end MarkupLint.Json
