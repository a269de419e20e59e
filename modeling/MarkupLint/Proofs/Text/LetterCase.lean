import MarkupLint.Proofs.Text.Utf8
import MarkupLint.Registry.Language

/-!
# Lower case on octets

Putting the ASCII letters of a text in lower case changes just the octets that spell them, for no
octet of any other character lies in the ASCII range.  So octets that differ only in the case of
ASCII letters spell texts together or not at all.
-/

namespace MarkupLint

/-- An octet with an ASCII capital put in lower case. -/
def lowerOctet (octet : UInt8) : UInt8 :=
  if 0x41 ≤ octet ∧ octet ≤ 0x5A then octet + 0x20 else octet

variable {octet : UInt8} {octets : Octets} {character : Char}

theorem lowerOctet_cases (octet : UInt8) :
    lowerOctet octet = octet ∨ octet < 0x80 ∧ lowerOctet octet < 0x80 := by
  unfold lowerOctet
  split
  · next capital =>
      right
      obtain ⟨least, most⟩ := capital
      rw [UInt8.le_iff_toNat_le] at least most
      simp only [UInt8.lt_iff_toNat_lt, UInt8.toNat_add]
      simp only [UInt8.reduceToNat] at least most ⊢
      omega
  · exact .inl rfl

theorem lowerOctet_of_le (beyond : 0x80 ≤ octet) : lowerOctet octet = octet := by
  rcases lowerOctet_cases octet with same | ⟨small, _⟩
  · exact same
  · exact absurd beyond (UInt8.not_le.mpr small)

theorem lowerOctet_eq_of_le (beyond : 0x80 ≤ lowerOctet octet) : lowerOctet octet = octet := by
  rcases lowerOctet_cases octet with same | ⟨_, small⟩
  · exact same
  · exact absurd beyond (UInt8.not_le.mpr small)

theorem lt_of_lowerOctet_lt (small : lowerOctet octet < 0x80) : octet < 0x80 := by
  rcases lowerOctet_cases octet with same | ⟨small, _⟩
  · rwa [← same]
  · exact small

theorem map_lowerOctet_of_le (beyond : ∀ octet ∈ octets, 0x80 ≤ octet) :
    octets.map lowerOctet = octets := by
  refine (List.map_congr_left ?_).trans (List.map_id octets)
  exact fun octet inside => lowerOctet_of_le (beyond octet inside)

/-- Outside ASCII a character has no octet of the ASCII range. -/
theorem le_of_mem_utf8EncodeChar (beyond : 0x80 ≤ character.toNat) :
    ∀ octet ∈ String.utf8EncodeChar character, 0x80 ≤ octet := by
  have high (number size least : Nat) (room : size + least ≤ 256) (large : 0x80 ≤ least)
      (present : 0 < size) : (0x80 : UInt8) ≤ UInt8.ofNat (number % size + least) := by
    have below := Nat.mod_lt number present
    rw [UInt8.le_iff_toNat_le, Utf8.toNat_ofNat_of_lt (by omega)]
    exact Nat.le_trans large (Nat.le_add_left ..)
  have notOne : ¬ character.val.toNat ≤ 127 := by
    change 0x80 ≤ character.val.toNat at beyond
    omega
  intro octet inside
  rw [String.utf8EncodeChar, if_neg notOne] at inside
  split_ifs at inside <;> simp only [List.mem_cons, List.not_mem_nil, or_false] at inside
  · rcases inside with rfl | rfl <;> exact high _ _ _ (by decide) (by decide) (by decide)
  · rcases inside with rfl | rfl | rfl <;> exact high _ _ _ (by decide) (by decide) (by decide)
  · rcases inside with rfl | rfl | rfl | rfl <;>
      exact high _ _ _ (by decide) (by decide) (by decide)

theorem map_lowerOctet_encode : ∀ code < 0x80,
    (Utf8.encode code).map lowerOctet = Utf8.encode (Char.ofNat code).toLower.toNat := by
  decide +kernel

theorem toLower_of_le (beyond : 0x80 ≤ character.toNat) : character.toLower = character := by
  have notCapital : ¬ (character.val ≥ 'A'.val ∧ character.val ≤ 'Z'.val) := by
    rintro ⟨_, most⟩
    have small : character.toNat ≤ 'Z'.toNat := UInt32.le_iff_toNat_le.mp most
    have bound : 'Z'.toNat = 0x5A := rfl
    omega
  exact dif_neg notCapital

theorem map_lowerOctet_utf8EncodeChar (character : Char) :
    (String.utf8EncodeChar character).map lowerOctet =
      String.utf8EncodeChar character.toLower := by
  rcases Nat.lt_or_ge character.toNat 0x80 with small | beyond
  · have lower := map_lowerOctet_encode character.toNat small
    rwa [Utf8.encode, Utf8.encode, Char.ofNat_toNat, Char.ofNat_toNat] at lower
  · rw [toLower_of_le beyond, map_lowerOctet_of_le (le_of_mem_utf8EncodeChar beyond)]

theorem map_lowerOctet_ofString (text : String) :
    (Octets.ofString text).map lowerOctet = Octets.ofString (Language.lowerAscii text) := by
  simp only [Octets.ofString, Language.lowerAscii, List.map_flatMap, String.toList_map,
    List.flatMap_map, map_lowerOctet_utf8EncodeChar]

/-- What becomes the octets of a character in lower case are the octets of some character. -/
theorem exists_eq_utf8EncodeChar
    (lower : octets.map lowerOctet = String.utf8EncodeChar character) :
    ∃ original, octets = String.utf8EncodeChar original := by
  rcases Nat.lt_or_ge character.toNat 0x80 with small | beyond
  · have spelled := Utf8.encode_one small
    rw [Utf8.encode, Char.ofNat_toNat] at spelled
    rw [spelled, List.map_eq_singleton_iff] at lower
    obtain ⟨octet, rfl, lower⟩ := lower
    have bound : lowerOctet octet < 0x80 := by
      rw [lower, UInt8.lt_iff_toNat_lt, Utf8.toNat_ofNat_of_lt (by omega)]
      exact small
    have ascii : octet.toNat < 0x80 := UInt8.lt_iff_toNat_lt.mp (lt_of_lowerOctet_lt bound)
    have original := Utf8.encode_one ascii
    rw [UInt8.ofNat_toNat] at original
    exact ⟨_, original.symm⟩
  · refine ⟨character, ?_⟩
    have same : octets.map lowerOctet = octets := by
      refine (List.map_congr_left ?_).trans (List.map_id octets)
      intro octet inside
      apply lowerOctet_eq_of_le
      apply le_of_mem_utf8EncodeChar beyond
      rw [← lower]
      exact List.mem_map_of_mem inside
    rw [← same, lower]

theorem exists_eq_flatMap_utf8EncodeChar {characters : List Char}
    (lower : octets.map lowerOctet = characters.flatMap String.utf8EncodeChar) :
    ∃ originals : List Char, octets = originals.flatMap String.utf8EncodeChar := by
  induction characters generalizing octets with
  | nil => exact ⟨[], by simpa using lower⟩
  | cons character rest ih =>
      rw [List.flatMap_cons] at lower
      obtain ⟨front, back, rfl, first, others⟩ := List.map_eq_append_iff.mp lower
      obtain ⟨original, rfl⟩ := exists_eq_utf8EncodeChar first
      obtain ⟨originals, rfl⟩ := ih others
      exact ⟨original :: originals, List.flatMap_cons.symm⟩

/-- Octets in lower case spell the text in lower case, if they spell any. -/
theorem decode?_map_lowerOctet (octets : Octets) :
    Utf8.decode? (octets.map lowerOctet) = (Utf8.decode? octets).map Language.lowerAscii := by
  rw [Option.ext_iff]
  intro lowered
  simp only [Option.map_eq_some_iff, Utf8.decode?_eq_some_iff]
  constructor
  · intro lower
    obtain ⟨characters, spelled⟩ := exists_eq_flatMap_utf8EncodeChar lower
    have original : octets = Octets.ofString (String.ofList characters) := by
      rw [spelled, Octets.ofString, String.toList_ofList]
    refine ⟨_, original, ?_⟩
    apply Utf8.ofString_injective
    rw [← map_lowerOctet_ofString, ← original, lower]
  · rintro ⟨text, rfl, rfl⟩
    exact map_lowerOctet_ofString text

end MarkupLint
