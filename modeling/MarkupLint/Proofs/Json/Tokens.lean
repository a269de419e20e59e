import MarkupLint.Json.Printer
import MarkupLint.Json.Reader
import Mathlib.Data.List.TakeDrop

/-!
# Reading back strings and integers

A string reads back from its quoted form, character by character, and an integer of 64 bits reads
back from its digits, provided that nothing follows that could be part of the number.
-/

namespace MarkupLint.Json.Reader

/-- Whether all characters may stand between the parts of a document. -/
def AreSpaces (gap : List Char) : Prop := ∀ character ∈ gap, isSpace character = true

/-- Whether a text does not begin with a character that a number could go on with. -/
def EndsNumber (text : List Char) : Prop :=
  ∀ character ∈ text.head?, isDigit character = false ∧ character ≠ '.' ∧ character ≠ 'e' ∧
    character ≠ 'E'

theorem areSpaces_nil : AreSpaces [] := by
  intro character inside
  cases inside

theorem endsNumber_nil : EndsNumber [] := by
  intro character inside
  cases inside

theorem endsNumber_cons {character : Char} {rest : List Char}
    (apart : isDigit character = false ∧ character ≠ '.' ∧ character ≠ 'e' ∧ character ≠ 'E') :
    EndsNumber (character :: rest) := by
  intro other first
  obtain rfl := Option.some.inj first
  exact apart

theorem skipSpace_append {gap : List Char} (spaces : AreSpaces gap) (text : List Char) :
    skipSpace (gap ++ text) = skipSpace text :=
  List.dropWhile_append_of_pos spaces

theorem skipSpace_cons {character : Char} {rest : List Char}
    (notSpace : isSpace character = false) :
    skipSpace (character :: rest) = character :: rest := by
  rw [skipSpace, List.dropWhile_cons_of_neg (by simp [notSpace])]

theorem EndsNumber.of_spaces {gap text : List Char} (spaces : AreSpaces gap)
    (ends : EndsNumber text) : EndsNumber (gap ++ text) := by
  cases gap with
  | nil => exact ends
  | cons character more =>
      have space := spaces character List.mem_cons_self
      apply endsNumber_cons
      simp only [isSpace, Bool.or_eq_true, beq_iff_eq] at space
      rcases space with ((rfl | rfl) | rfl) | rfl <;> decide

/-! Strings. -/

theorem hexValue?_hexDigit : ∀ value < 16, hexValue? (hexDigit value) = some value := by
  decide

theorem codeEscape_control {code : Nat} (control : code < 0x20) (rest : List Char) :
    codeEscape false ('0' :: '0' :: hexDigit (code / 16) :: hexDigit (code % 16) :: rest) =
      .ok (Char.ofNat code, rest) := by
  have high : hexValue? (hexDigit (code / 16)) = some (code / 16) :=
    hexValue?_hexDigit _ (by omega)
  have low : hexValue? (hexDigit (code % 16)) = some (code % 16) :=
    hexValue?_hexDigit _ (by omega)
  have zero : hexValue? '0' = some 0 := rfl
  have whole : code / 16 * 16 + code % 16 = code := Nat.div_add_mod' code 16
  have quad : hexQuad ('0' :: '0' :: hexDigit (code / 16) :: hexDigit (code % 16) :: rest) =
      .ok (code, rest) := by
    simp [hexQuad, high, low, zero, whole]
  simp only [codeEscape, quad]
  have notTrail : ¬ 0xDC00 ≤ code := by omega
  have notLead : ¬ 0xD800 ≤ code := by omega
  simp [notTrail, notLead]

theorem stringBody_escape (character : Char) (fuel : Nat) (read rest : List Char) :
    stringBody false (fuel + 1) read (escape character ++ rest) =
      stringBody false fuel (character :: read) rest := by
  unfold escape
  split
  · simp [stringBody, escapeSequence]
  · simp [stringBody, escapeSequence]
  · simp [stringBody, escapeSequence]
  · simp [stringBody, escapeSequence]
  · simp [stringBody, escapeSequence]
  · next notQuote notBackslash _ _ _ =>
      have same {code : Nat} (here : character.toNat = code) : character = Char.ofNat code := by
        rw [← here, Char.ofNat_toNat]
      by_cases backspace : character.toNat = 0x08
      · obtain rfl := same backspace
        simp [stringBody, escapeSequence]
      · by_cases formFeed : character.toNat = 0x0C
        · obtain rfl := same formFeed
          simp [stringBody, escapeSequence]
        · by_cases control : character.toNat < 0x20
          · simp [backspace, formFeed, control, stringBody, escapeSequence,
              codeEscape_control control]
          · simp only [backspace, formFeed, control, if_false, List.cons_append, List.nil_append]
            rw [stringBody]
            · rw [if_neg control]
            · exact notQuote
            · exact notBackslash

theorem stringBody_flatMap_escape (characters : List Char) {fuel : Nat}
    (enough : characters.length < fuel) (read rest : List Char) :
    stringBody false fuel read (characters.flatMap escape ++ '"' :: rest) =
      .ok (String.ofList (read.reverse ++ characters), rest) := by
  induction characters generalizing fuel read with
  | nil =>
      obtain ⟨fuel, rfl⟩ := Nat.exists_eq_add_of_lt enough
      simp [stringBody]
  | cons character more ih =>
      cases fuel with
      | zero => exact absurd enough (Nat.not_lt_zero _)
      | succ fuel =>
          rw [List.flatMap_cons, List.append_assoc, stringBody_escape,
            ih (Nat.lt_of_succ_lt_succ enough)]
          simp

theorem length_le_length_flatMap_escape (characters : List Char) :
    characters.length ≤ (characters.flatMap escape).length := by
  induction characters with
  | nil => exact Nat.le_refl _
  | cons character more ih =>
      have present : 1 ≤ (escape character).length := by
        unfold escape
        split
        · decide
        · decide
        · decide
        · decide
        · decide
        · dsimp only
          split_ifs <;> simp
      rw [List.flatMap_cons, List.length_append, List.length_cons]
      omega

/-! Integers. -/

theorem isSpace_eq_false_of_isDigit {character : Char} (digit : isDigit character = true) :
    isSpace character = false := by
  simp only [isSpace, Bool.or_eq_false_iff, beq_eq_false_iff_ne]
  refine ⟨⟨⟨?_, ?_⟩, ?_⟩, ?_⟩ <;> rintro rfl <;> exact absurd digit (by decide)

theorem isDigit_eq_true_of_mem_toDigits {number : Nat} {character : Char}
    (inside : character ∈ Nat.toDigits 10 number) : isDigit character = true := by
  have digit := Nat.isDigit_of_mem_toDigits (by decide) (by decide) inside
  simpa [isDigit, Char.isDigit, Char.le_def] using digit

theorem le_ofDigitChars (digits : List Char) (start : Nat) :
    start ≤ Nat.ofDigitChars 10 digits start := by
  rw [Nat.ofDigitChars_eq_ofDigitChars_zero]
  have grows : start ≤ 10 ^ digits.length * start :=
    Nat.le_mul_of_pos_left _ (Nat.pow_pos (by decide))
  omega

theorem takeDigits_append {digits rest : List Char}
    (areDigits : ∀ character ∈ digits, isDigit character = true) (ends : EndsNumber rest)
    {significand : Nat} (fits : Nat.ofDigitChars 10 digits significand ≤ Number.greatestWord)
    (count : Nat) :
    takeDigits significand count (digits ++ rest) =
      (Nat.ofDigitChars 10 digits significand, count + digits.length, rest) := by
  induction digits generalizing significand count with
  | nil =>
      cases rest with
      | nil => simp [takeDigits]
      | cons next more =>
          have apart := (ends next rfl).1
          simp [takeDigits, apart]
  | cons digit more ih =>
      rw [List.forall_mem_cons] at areDigits
      rw [Nat.ofDigitChars_cons] at fits ⊢
      have extended : significand * 10 + digitValue digit =
          10 * significand + (digit.toNat - '0'.toNat) := by
        rw [digitValue, Nat.mul_comm]
      have within := Nat.le_trans (le_ofDigitChars more _) fits
      rw [List.cons_append, takeDigits]
      simp only [extended, areDigits.1, within, decide_true, Bool.and_self, if_true]
      rw [ih areDigits.2 fits, List.length_cons]
      simp only [Nat.add_assoc, Nat.add_comm 1]

theorem exists_toDigits_eq_cons {number : Nat} (positive : 0 < number) :
    ∃ first more, Nat.toDigits 10 number = first :: more ∧ first ≠ '0' := by
  induction number using Nat.strongRecOn with
  | ind number ih =>
      rw [Nat.toDigits_eq_if (by decide)]
      by_cases single : number < 10
      · refine ⟨_, [], if_pos single, ?_⟩
        rw [Ne, Nat.digitChar_eq_zero]
        omega
      · obtain ⟨first, more, digits, notZero⟩ := ih (number / 10) (by omega) (by omega)
        refine ⟨first, more ++ [Nat.digitChar (number % 10)], ?_, notZero⟩
        rw [if_neg single, digits, List.cons_append]

theorem afterInteger_of_ends {rest : List Char} (ends : EndsNumber rest) (negative : Bool)
    (significand : Nat) :
    afterInteger negative significand 0 rest = finishInteger negative significand rest := by
  unfold afterInteger
  split
  · exact absurd rfl (ends _ rfl).2.1
  · exact absurd rfl (ends _ rfl).2.2.1
  · exact absurd rfl (ends _ rfl).2.2.2
  · rfl

theorem dropDigits_of_ends {rest : List Char} (ends : EndsNumber rest) :
    dropDigits rest = (0, rest) := by
  cases rest with
  | nil => rfl
  | cons next more => simp [dropDigits, (ends next rfl).1]

/-- The digits of an integer of 64 bits are read as that integer. -/
theorem number_toDigits {value : Nat} (fits : value ≤ Number.greatestWord) (negative : Bool)
    {rest : List Char} (ends : EndsNumber rest) :
    number negative (Nat.toDigits 10 value ++ rest) = finishInteger negative value rest := by
  rcases Nat.eq_zero_or_pos value with rfl | positive
  · rw [Nat.toDigits_zero, List.singleton_append]
    cases rest with
    | nil => exact afterInteger_of_ends ends negative 0
    | cons next more =>
        rw [number, if_neg (by simp [(ends next rfl).1])]
        exact afterInteger_of_ends ends negative 0
  · obtain ⟨first, more, digits, notZero⟩ := exists_toDigits_eq_cons positive
    have areDigits : ∀ character ∈ Nat.toDigits 10 value, isDigit character = true :=
      fun character => isDigit_eq_true_of_mem_toDigits
    have same := Nat.ofDigitChars_toDigits (b := 10) (n := value) (by decide) (by decide)
    have within : Nat.ofDigitChars 10 (Nat.toDigits 10 value) 0 ≤ Number.greatestWord := by
      rwa [same]
    have taken := takeDigits_append areDigits ends within 0
    rw [same] at taken
    have firstDigit : isDigit first = true := areDigits first (by simp [digits])
    rw [digits, List.cons_append] at taken ⊢
    rw [number]
    · simp only [firstDigit, if_true, taken, dropDigits_of_ends ends]
      exact afterInteger_of_ends ends negative value
    · rintro next other rfl
      exact absurd rfl notZero
    · rintro rfl
      exact absurd rfl notZero

end MarkupLint.Json.Reader
