import MarkupLint.Text.Utf8
import Mathlib.Tactic.SplitIfs

/-!
# Strict reading undoes writing

Octets can be read strictly exactly if they are the written form of a text, and then it is this
text that is read.  Reading back what was written follows the octets of one character at a time.
For the other direction a state of the walk is described by the octets seen so far: they are the
written form of the characters read, followed by the octets of the character that is still open,
which every continuation that the walk accepts completes to a written character.
-/

namespace MarkupLint.Utf8

section Encoding

/-- The written form of the character with a code. -/
abbrev encode (code : Nat) : Octets := String.utf8EncodeChar (Char.ofNat code)

theorem toNat_ofNat_of_lt {number : Nat} (small : number < 256) :
    (UInt8.ofNat number).toNat = number := by
  rw [UInt8.toNat_ofNat']
  omega

theorem val_toNat_ofNat {code : Nat} (valid : code.isValidChar) :
    (Char.ofNat code).val.toNat = code := by
  rw [Char.ofNat, dif_pos valid]
  rfl

theorem encode_one {code : Nat} (most : code < 0x80) : encode code = [UInt8.ofNat code] := by
  rw [encode, String.utf8EncodeChar, val_toNat_ofNat (Or.inl (by omega)), if_pos (by omega)]

theorem encode_two {code : Nat} (least : 0x80 ≤ code) (most : code < 0x800) :
    encode code = [UInt8.ofNat (code / 64 + 0xC0), UInt8.ofNat (code % 64 + 0x80)] := by
  rw [encode, String.utf8EncodeChar, val_toNat_ofNat (Or.inl (by omega)), if_neg (by omega),
    if_pos (by omega), Nat.mod_eq_of_lt (show code / 64 < 32 by omega)]

theorem encode_three {code : Nat} (least : 0x800 ≤ code) (most : code < 0x10000)
    (valid : code.isValidChar) :
    encode code = [UInt8.ofNat (code / 4096 + 0xE0), UInt8.ofNat (code / 64 % 64 + 0x80),
      UInt8.ofNat (code % 64 + 0x80)] := by
  rw [encode, String.utf8EncodeChar, val_toNat_ofNat valid, if_neg (by omega),
    if_neg (by omega), if_pos (by omega), Nat.mod_eq_of_lt (show code / 4096 < 16 by omega)]

theorem encode_four {code : Nat} (least : 0x10000 ≤ code) (most : code < 0x110000) :
    encode code = [UInt8.ofNat (code / 262144 + 0xF0), UInt8.ofNat (code / 4096 % 64 + 0x80),
      UInt8.ofNat (code / 64 % 64 + 0x80), UInt8.ofNat (code % 64 + 0x80)] := by
  rw [encode, String.utf8EncodeChar, val_toNat_ofNat (Or.inr (by omega)), if_neg (by omega),
    if_neg (by omega), if_neg (by omega), Nat.mod_eq_of_lt (show code / 262144 < 8 by omega)]

end Encoding

section Steps

variable {pieces : Pieces} {pending : Pending} {low high octet : UInt8} {more code : Nat}

theorem advance_of_opens (opens : lead octet = .opens pending) :
    advance (pieces, .nothing) octet = (pieces, pending) := by
  simp only [advance, start, opens]

theorem advance_of_single (single : lead octet = .single code) :
    advance (pieces, .nothing) octet = (some (Char.ofNat code) :: pieces, .nothing) := by
  simp only [advance, start, single]

theorem advance_of_within {value : Nat} (spelled : octet.toNat = value + 0x80)
    (least : low.toNat ≤ value + 0x80) (most : value + 0x80 ≤ high.toNat) :
    advance (pieces, .continuation (more + 2) low high code) octet =
      (pieces, .continuation (more + 1) 0x80 0xBF (code * 64 + value)) := by
  rw [← spelled] at least most
  have within : low ≤ octet ∧ octet ≤ high :=
    ⟨UInt8.le_iff_toNat_le.mpr least, UInt8.le_iff_toNat_le.mpr most⟩
  have several : ¬ more + 2 ≤ 1 := by omega
  simp only [advance, if_pos within, if_neg several, spelled, Nat.add_sub_cancel,
    Nat.add_succ_sub_one]

theorem advance_of_within_last {value : Nat} (spelled : octet.toNat = value + 0x80)
    (least : low.toNat ≤ value + 0x80) (most : value + 0x80 ≤ high.toNat) :
    advance (pieces, .continuation 1 low high code) octet =
      (some (Char.ofNat (code * 64 + value)) :: pieces, .nothing) := by
  rw [← spelled] at least most
  have within : low ≤ octet ∧ octet ≤ high :=
    ⟨UInt8.le_iff_toNat_le.mpr least, UInt8.le_iff_toNat_le.mpr most⟩
  simp only [advance, if_pos within, Nat.le_refl, if_true, spelled, Nat.add_sub_cancel]

theorem lead_two (least : 0xC2 ≤ octet.toNat) (most : octet.toNat < 0xE0) :
    lead octet = .opens (.continuation 1 0x80 0xBF (octet.toNat - 0xC0)) := by
  simp only [lead]
  rw [if_neg (by omega), if_neg (by omega), if_pos (by omega)]

theorem lead_three (least : 0xE0 ≤ octet.toNat) (most : octet.toNat < 0xF0) :
    lead octet = .opens (.continuation 2 (if octet.toNat = 0xE0 then 0xA0 else 0x80)
      (if octet.toNat = 0xED then 0x9F else 0xBF) (octet.toNat - 0xE0)) := by
  simp only [lead]
  rw [if_neg (by omega), if_neg (by omega), if_neg (by omega), if_pos (by omega)]

theorem lead_four (least : 0xF0 ≤ octet.toNat) (most : octet.toNat < 0xF5) :
    lead octet = .opens (.continuation 3 (if octet.toNat = 0xF0 then 0x90 else 0x80)
      (if octet.toNat = 0xF4 then 0x8F else 0xBF) (octet.toNat - 0xF0)) := by
  simp only [lead]
  rw [if_neg (by omega), if_neg (by omega), if_neg (by omega), if_neg (by omega),
    if_pos (by omega)]

end Steps

section Reading

theorem foldl_advance_encode (pieces : Pieces) (code : Nat) (valid : code.isValidChar) :
    (encode code).foldl advance (pieces, .nothing) =
      (some (Char.ofNat code) :: pieces, .nothing) := by
  have bounds : code < 0xD800 ∨ 0xDFFF < code ∧ code < 0x110000 := valid
  have tail (number : Nat) : (UInt8.ofNat (number % 64 + 0x80)).toNat = number % 64 + 0x80 :=
    toNat_ofNat_of_lt (by omega)
  have tailMost (number : Nat) : number % 64 + 0x80 ≤ (0xBF : UInt8).toNat := by
    change number % 64 + 0x80 ≤ 0xBF
    omega
  have tailLeast (number : Nat) : (0x80 : UInt8).toNat ≤ number % 64 + 0x80 :=
    Nat.le_add_left 0x80 _
  by_cases one : code < 0x80
  · have value := toNat_ofNat_of_lt (show code < 256 by omega)
    have single : lead (UInt8.ofNat code) = .single code := by rw [lead, value, if_pos one]
    rw [encode_one one, List.foldl_cons, List.foldl_nil, advance_of_single single]
  by_cases two : code < 0x800
  · have first := toNat_ofNat_of_lt (show code / 64 + 0xC0 < 256 by omega)
    rw [encode_two (by omega) two, List.foldl_cons, List.foldl_cons, List.foldl_nil,
      advance_of_opens (lead_two (by omega) (by omega)),
      advance_of_within_last (tail _) (tailLeast _) (tailMost _), first,
      show (code / 64 + 0xC0 - 0xC0) * 64 + code % 64 = code by omega]
  by_cases three : code < 0x10000
  · have first := toNat_ofNat_of_lt (show code / 4096 + 0xE0 < 256 by omega)
    rw [encode_three (by omega) three valid, List.foldl_cons, List.foldl_cons, List.foldl_cons,
      List.foldl_nil, advance_of_opens (lead_three (by omega) (by omega)),
      advance_of_within (tail _) ?least ?most,
      advance_of_within_last (tail _) (tailLeast _) (tailMost _), first,
      show ((code / 4096 + 0xE0 - 0xE0) * 64 + code / 64 % 64) * 64 + code % 64 = code by omega]
    case least =>
      split
      · change 0xA0 ≤ _
        omega
      · exact tailLeast _
    case most =>
      split
      · change _ ≤ 0x9F
        omega
      · exact tailMost _
  · have first := toNat_ofNat_of_lt (show code / 262144 + 0xF0 < 256 by omega)
    rw [encode_four (by omega) (by omega), List.foldl_cons, List.foldl_cons, List.foldl_cons,
      List.foldl_cons, List.foldl_nil, advance_of_opens (lead_four (by omega) (by omega)),
      advance_of_within (tail _) ?least ?most,
      advance_of_within (tail _) (tailLeast _) (tailMost _),
      advance_of_within_last (tail _) (tailLeast _) (tailMost _), first,
      show (((code / 262144 + 0xF0 - 0xF0) * 64 + code / 4096 % 64) * 64 + code / 64 % 64) * 64 +
        code % 64 = code by omega]
    case least =>
      split
      · change 0x90 ≤ _
        omega
      · exact tailLeast _
    case most =>
      split
      · change _ ≤ 0x8F
        omega
      · exact tailMost _

theorem foldl_advance_ofString (pieces : Pieces) (characters : List Char) :
    (characters.flatMap String.utf8EncodeChar).foldl advance (pieces, .nothing) =
      ((characters.map some).reverse ++ pieces, .nothing) := by
  induction characters generalizing pieces with
  | nil => rfl
  | cons character rest ih =>
      have first : (String.utf8EncodeChar character).foldl advance (pieces, .nothing) =
          (some character :: pieces, .nothing) := by
        simpa only [encode, Char.ofNat_toNat] using
          foldl_advance_encode pieces character.toNat character.valid
      rw [List.flatMap_cons, List.foldl_append, first, ih]
      simp

end Reading

section Completion

variable {low high octet : UInt8} {more code : Nat} {pieces : Pieces} {pending : Pending}
  {seen opened : Octets}

/-- Any continuation of an open character that the walk accepts completes the octets since it was
opened to the written form of a character. -/
def Completes : (more : Nat) → (low high : UInt8) → (code : Nat) → (opened : Octets) → Prop
  | more + 2, low, high, code, opened =>
      ∀ octet, low ≤ octet → octet ≤ high →
        Completes (more + 1) 0x80 0xBF (code * 64 + (octet.toNat - 0x80)) (opened ++ [octet])
  | _, low, high, code, opened =>
      ∀ octet, low ≤ octet → octet ≤ high →
        encode (code * 64 + (octet.toNat - 0x80)) = opened ++ [octet]

/-- What the walk owes tells how to complete the octets since the open character began. -/
def Owes : Pending → (opened : Octets) → Prop
  | .nothing, opened => opened = []
  | .continuation more low high code, opened => Completes more low high code opened

theorem ofNat_eq_of_toNat {number : Nat} (octet : UInt8) (same : number = octet.toNat) :
    UInt8.ofNat number = octet := by
  rw [same, UInt8.ofNat_toNat]

/-- A bound that is tightened under a condition, in terms of numbers. -/
theorem ite_le_iff {condition : Prop} [Decidable condition] {tight loose : UInt8}
    (within : loose ≤ tight) :
    (if condition then tight else loose) ≤ octet ↔
      loose.toNat ≤ octet.toNat ∧ (condition → tight.toNat ≤ octet.toNat) := by
  rw [UInt8.le_iff_toNat_le] at within ⊢
  split <;> simp_all
  omega

theorem le_ite_iff {condition : Prop} [Decidable condition] {tight loose : UInt8}
    (within : tight ≤ loose) :
    octet ≤ (if condition then tight else loose) ↔
      octet.toNat ≤ loose.toNat ∧ (condition → octet.toNat ≤ tight.toNat) := by
  rw [UInt8.le_iff_toNat_le] at within ⊢
  split <;> simp_all
  omega

theorem owes_of_lead (opens : lead octet = .opens pending) : Owes pending [octet] := by
  -- The splits go through the ranges of first octets, three of which open a character.
  simp only [lead] at opens
  split at opens
  · cases opens
  split at opens
  · cases opens
  split at opens
  · cases opens
    intro second least most
    rw [UInt8.le_iff_toNat_le] at least most
    simp only [UInt8.reduceToNat] at least most
    rw [encode_two (by omega) (by omega), ofNat_eq_of_toNat octet (by omega),
      ofNat_eq_of_toNat second (by omega), List.singleton_append]
  split at opens
  · cases opens
    intro second secondLeast secondMost third least most
    rw [ite_le_iff (by decide)] at secondLeast
    rw [le_ite_iff (by decide)] at secondMost
    rw [UInt8.le_iff_toNat_le] at least most
    simp only [UInt8.reduceToNat] at secondLeast secondMost least most
    have valid : (((octet.toNat - 0xE0) * 64 + (second.toNat - 0x80)) * 64 +
        (third.toNat - 0x80)).isValidChar := by
      unfold Nat.isValidChar
      omega
    rw [encode_three (by omega) (by omega) valid, ofNat_eq_of_toNat octet (by omega),
      ofNat_eq_of_toNat second (by omega),
      ofNat_eq_of_toNat third (by omega)]
    rfl
  split at opens
  · cases opens
    intro second secondLeast secondMost third thirdLeast thirdMost fourth least most
    rw [ite_le_iff (by decide)] at secondLeast
    rw [le_ite_iff (by decide)] at secondMost
    rw [UInt8.le_iff_toNat_le] at thirdLeast thirdMost least most
    simp only [UInt8.reduceToNat] at secondLeast secondMost thirdLeast thirdMost least most
    rw [encode_four (by omega) (by omega), ofNat_eq_of_toNat octet (by omega),
      ofNat_eq_of_toNat second (by omega),
      ofNat_eq_of_toNat third (by omega),
      ofNat_eq_of_toNat fourth (by omega)]
    rfl
  · cases opens

theorem encode_of_lead (single : lead octet = .single code) : encode code = [octet] := by
  simp only [lead] at single
  split_ifs at single with small
  cases single
  rw [encode_one small, UInt8.ofNat_toNat]

end Completion

section States

variable {pieces : Pieces} {octet : UInt8} {seen : Octets} {characters : List Char}

theorem exists_front_of_some_cons {character : Char}
    (same : some character :: pieces = (characters.map some).reverse) :
    ∃ front, characters = front ++ [character] ∧ pieces = (front.map some).reverse := by
  rcases List.eq_nil_or_concat characters with rfl | ⟨front, last, rfl⟩
  · simp at same
  · simp only [List.concat_eq_append, List.map_append, List.map_cons, List.map_nil,
      List.reverse_append, List.reverse_cons, List.reverse_nil, List.nil_append,
      List.singleton_append, List.cons.injEq, Option.some.injEq] at same
    exact ⟨front, by simp [same.1], same.2⟩

/-- What a state of the walk says about the octets seen so far, unless some of them were broken:
they spell the characters read, followed by the open one. -/
def Tells (seen : Octets) (state : Pieces × Pending) : Prop :=
  ∀ characters : List Char, state.1 = (characters.map some).reverse →
    ∃ opened, seen = characters.flatMap String.utf8EncodeChar ++ opened ∧ Owes state.2 opened

theorem tells_of_broken (broken : none ∈ pieces) (pending : Pending) :
    Tells seen (pieces, pending) := by
  intro characters spelled
  have inside : none ∈ (characters.map some).reverse := spelled ▸ broken
  simp at inside

theorem tells_start (told : Tells seen (pieces, .nothing)) (octet : UInt8) :
    Tells (seen ++ [octet]) (start pieces octet) := by
  intro characters spelled
  unfold start at spelled ⊢
  cases leads : lead octet with
  | single code =>
      simp only [leads] at spelled ⊢
      obtain ⟨front, rfl, spelledFront⟩ := exists_front_of_some_cons spelled
      obtain ⟨opened, rfl, rfl⟩ := told front spelledFront
      have written : String.utf8EncodeChar (Char.ofNat code) = [octet] := encode_of_lead leads
      exact ⟨[], by simp [written], rfl⟩
  | opens pending =>
      simp only [leads] at spelled ⊢
      obtain ⟨opened, rfl, rfl⟩ := told characters spelled
      exact ⟨[octet], by simp, owes_of_lead leads⟩
  | broken =>
      exact tells_of_broken List.mem_cons_self .nothing characters (by simpa [leads] using spelled)

theorem tells_advance {state : Pieces × Pending} (told : Tells seen state) (octet : UInt8) :
    Tells (seen ++ [octet]) (advance state octet) := by
  obtain ⟨pieces, pending⟩ := state
  cases pending with
  | nothing => exact tells_start told octet
  | continuation more low high code =>
      unfold advance
      dsimp only
      split
      · next within =>
          split
          · next last =>
              -- The octet completes the character that was opened.
              intro characters spelled
              obtain ⟨front, rfl, spelledFront⟩ := exists_front_of_some_cons spelled
              obtain ⟨opened, rfl, owes⟩ := told front spelledFront
              have written : encode (code * 64 + (octet.toNat - 0x80)) = opened ++ [octet] := by
                match more, last, owes with
                | 0, _, owes | 1, _, owes => exact owes octet within.1 within.2
              exact ⟨[], by simp [written], rfl⟩
          · next several =>
              intro characters spelled
              obtain ⟨opened, rfl, owes⟩ := told characters spelled
              refine ⟨opened ++ [octet], by simp, ?_⟩
              match more, several, owes with
              | more + 2, _, owes => exact owes octet within.1 within.2
      · -- A character that was broken off spells no text, whatever the octet starts.
        exact tells_start (tells_of_broken List.mem_cons_self .nothing) octet

theorem tells_foldl {state : Pieces × Pending} (told : Tells seen state) (octets : Octets) :
    Tells (seen ++ octets) (octets.foldl advance state) := by
  induction octets generalizing seen state with
  | nil => simpa using told
  | cons octet rest ih => simpa using ih (tells_advance told octet)

end States

theorem eq_of_pieces {octets : Octets} {characters : List Char}
    (read : pieces octets = characters.map some) :
    octets = characters.flatMap String.utf8EncodeChar := by
  have atStart : Tells [] ([], .nothing) := by
    intro none spelled
    obtain rfl : none = [] := by simpa using spelled.symm
    exact ⟨[], rfl, rfl⟩
  have told := tells_foldl atStart octets
  rw [List.nil_append] at told
  unfold pieces at read
  cases reached : octets.foldl advance ([], .nothing) with
  | mk output pending =>
      simp only [reached] at read told
      cases pending with
      | nothing =>
          obtain ⟨opened, whole, rfl⟩ := told characters (List.reverse_eq_iff.mp read)
          rwa [List.append_nil] at whole
      | continuation =>
          have inside : none ∈ characters.map some := read ▸ by simp
          simp at inside

theorem pieces_ofString (text : String) : pieces (Octets.ofString text) = text.toList.map some := by
  simp [pieces, Octets.ofString, foldl_advance_ofString]

theorem mapM_id_eq_some_iff {pieces : Pieces} {characters : List Char} :
    pieces.mapM id = some characters ↔ pieces = characters.map some := by
  induction pieces generalizing characters with
  | nil => cases characters <;> simp
  | cons piece rest ih =>
      cases piece with
      | none => cases characters <;> simp [List.mapM_cons]
      | some first =>
          cases characters with
          | nil => cases read : rest.mapM id <;> simp [List.mapM_cons, read]
          | cons character others =>
              rw [List.map_cons, List.cons.injEq, ← ih]
              cases read : rest.mapM id <;> simp [List.mapM_cons, read]

/-- Octets can be read strictly exactly if they are the written form of a text, and it is this text
that is read. -/
theorem decode?_eq_some_iff {octets : Octets} {text : String} :
    decode? octets = some text ↔ octets = Octets.ofString text := by
  unfold decode?
  constructor
  · intro read
    obtain ⟨characters, whole, rfl⟩ := Option.map_eq_some_iff.mp read
    rw [Octets.ofString, String.toList_ofList]
    exact eq_of_pieces (mapM_id_eq_some_iff.mp whole)
  · rintro rfl
    rw [pieces_ofString, mapM_id_eq_some_iff.mpr rfl, Option.map_some, String.ofList_toList]

theorem ofString_injective : Function.Injective Octets.ofString := by
  intro first second same
  have read := decode?_eq_some_iff.mpr same
  rw [decode?_eq_some_iff.mpr rfl, Option.some.injEq] at read
  exact read

end MarkupLint.Utf8
