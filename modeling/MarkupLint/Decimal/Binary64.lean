/-!
# Binary floating point

Finite numbers of 53 significant bits with a sign, including both zeros and the subnormal numbers.
Every operation is exact arithmetic on fractions followed by one rounding to the nearest number,
a tie going to the even significand. A result past the largest finite number is no number.
-/

namespace MarkupLint

/-- A finite number `± significand * 2 ^ exponent`. The functions below keep it in normal form:
the significand is below `2 ^ 53`, the exponent is at least `-1074`, and the significand is at
least `2 ^ 52` unless the exponent is `-1074`. -/
structure Binary64 where
  negative : Bool
  significand : Nat
  exponent : Int
deriving DecidableEq, Repr

namespace Binary64

/-- The least exponent, that of the subnormal numbers and of zero. -/
def leastExponent : Int := -1074

/-- The least significand of a number that is not subnormal, which has 53 bits. -/
def leastNormal : Nat := Nat.pow 2 52

/-- What all significands stay below. -/
def significandBound : Nat := Nat.pow 2 53

/-- The greatest exponent of a finite number. -/
def greatestExponent : Int := 971

/-- Zero with a sign. -/
def zero (negative : Bool) : Binary64 := ⟨negative, 0, leastExponent⟩

instance : Inhabited Binary64 := ⟨zero false⟩

/-- Whether the number is zero of either sign. -/
def isZero (number : Binary64) : Bool := number.significand == 0

/-- The fraction `numerator / denominator * 2 ^ exponent`, as a numerator and a denominator. -/
def scale (numerator denominator : Nat) (exponent : Int) : Nat × Nat :=
  if 0 ≤ exponent then (numerator * Nat.pow 2 exponent.toNat, denominator)
  else (numerator, denominator * Nat.pow 2 (-exponent).toNat)

/-- The quotient rounded to the nearest integer, a tie going to the even one. -/
def roundDivEven (numerator denominator : Nat) : Nat :=
  let quotient := numerator / denominator
  let remainder := numerator % denominator
  if 2 * remainder < denominator then quotient
  else if 2 * remainder = denominator then quotient + quotient % 2
  else quotient + 1

/-- The number nearest to a fraction, or none if it is past the largest one. -/
def ofFraction (negative : Bool) (numerator denominator : Nat) : Option Binary64 :=
  if numerator = 0 then some (zero negative)
  else
    let magnitude : Int := numerator.log2 - denominator.log2
    let wide := max (magnitude - 53) leastExponent
    let (wideNumerator, wideDenominator) := scale numerator denominator (-wide)
    let exponent := if significandBound ≤ wideNumerator / wideDenominator then wide + 1 else wide
    let (scaledNumerator, scaledDenominator) := scale numerator denominator (-exponent)
    let rounded := roundDivEven scaledNumerator scaledDenominator
    let (significand, exponent) :=
      if rounded = significandBound then (leastNormal, exponent + 1) else (rounded, exponent)
    if exponent ≤ greatestExponent then some ⟨negative, significand, exponent⟩ else none

/-- The number nearest to a natural number. -/
def ofNat (value : Nat) : Option Binary64 := ofFraction false value 1

/-- The number nearest to a power of ten. -/
def powerOfTen (power : Nat) : Option Binary64 := ofNat (Nat.pow 10 power)

/-- The magnitude as a numerator and a denominator. -/
def fraction (number : Binary64) : Nat × Nat := scale number.significand 1 number.exponent

/-- The rounded product. -/
def mul (first second : Binary64) : Option Binary64 :=
  let (firstNumerator, firstDenominator) := first.fraction
  let (secondNumerator, secondDenominator) := second.fraction
  ofFraction (first.negative != second.negative) (firstNumerator * secondNumerator)
    (firstDenominator * secondDenominator)

/-- The rounded quotient; a zero divisor gives no number. -/
def div (first second : Binary64) : Option Binary64 :=
  let (firstNumerator, firstDenominator) := first.fraction
  let (secondNumerator, secondDenominator) := second.fraction
  if secondNumerator = 0 then none
  else
    ofFraction (first.negative != second.negative) (firstNumerator * secondDenominator)
      (firstDenominator * secondNumerator)

/-- The number with the opposite sign. -/
def neg (number : Binary64) : Binary64 := { number with negative := !number.negative }

example : ofFraction false 1 10 = some ⟨false, 0x1999999999999A, -56⟩ := by decide +kernel
example : ofNat (Nat.pow 2 1024) = none := by decide +kernel

end Binary64

end MarkupLint
