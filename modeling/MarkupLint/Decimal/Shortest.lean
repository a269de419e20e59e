import MarkupLint.Decimal.Binary64
/-!
# Shortest decimal text

The fewest digits that read back as a given number, nearest to it among those of equal length, and
the notation that writes them: positional for decimal exponents of moderate size and scientific
otherwise.
-/

namespace MarkupLint.Decimal

/-- A positive decimal number `digits * 10 ^ scale`. -/
structure Digits where
  digits : Nat
  scale : Int
deriving DecidableEq, Repr

/-- The fractions that round to a given magnitude, as bounds over a common denominator. -/
structure Interval where
  low : Nat
  value : Nat
  high : Nat
  denominator : Nat
  closed : Bool

/-- The numbers half-way to both neighbours bound the interval; the bounds belong to it when the
significand is even. The lower neighbour of a power of two is half as far away. -/
def Interval.around (number : Binary64) : Interval :=
  let significand := number.significand
  let halved := significand == Binary64.leastNormal && number.exponent != Binary64.leastExponent
  let low := if halved then 4 * significand - 1 else 4 * significand - 2
  let high := 4 * significand + 2
  let (unit, denominator) := Binary64.scale 1 4 number.exponent
  ⟨low * unit, 4 * significand * unit, high * unit, denominator, significand % 2 == 0⟩

/-- Whether the fraction `numerator / denominator` lies in the interval. -/
def Interval.holds (interval : Interval) (numerator denominator : Nat) : Bool :=
  let left := numerator * interval.denominator
  let low := interval.low * denominator
  let high := interval.high * denominator
  if interval.closed then low ≤ left && left ≤ high else low < left && left < high

/-- The number of decimal digits of a natural number. -/
def length (value : Nat) : Nat := (Nat.toDigits 10 value).length

/-- The exponent of the leading decimal digit of a fraction. -/
def leadingExponent (numerator denominator : Nat) : Int :=
  let guess : Int := length numerator - length denominator
  let reached :=
    if 0 ≤ guess then denominator * Nat.pow 10 guess.toNat ≤ numerator
    else denominator ≤ numerator * Nat.pow 10 (-guess).toNat
  if reached then guess else guess - 1

/-- The decimal number on the grid of the given step that is nearest to the value, among the two
neighbours of the value that lie in the interval; the lower one wins a tie. -/
def Interval.nearestOn (interval : Interval) (scale : Int) : Option Digits :=
  let up := if 0 ≤ scale then Nat.pow 10 scale.toNat else 1
  let down := if 0 ≤ scale then 1 else Nat.pow 10 (-scale).toNat
  let floor := interval.value * down / (interval.denominator * up)
  let fits digits := digits != 0 && interval.holds (digits * up) down
  let distance digits :=
    let left := digits * up * interval.denominator
    let right := interval.value * down
    max left right - min left right
  match fits floor, fits (floor + 1) with
  | true, true =>
      some ⟨if distance floor ≤ distance (floor + 1) then floor else floor + 1, scale⟩
  | true, false => some ⟨floor, scale⟩
  | false, true => some ⟨floor + 1, scale⟩
  | false, false => none

/-- The shortest decimal number that rounds to the given nonzero magnitude. Seventeen digits are
always enough. -/
def shortest (number : Binary64) : Digits :=
  let interval := Interval.around number
  let exponent := leadingExponent interval.value interval.denominator
  let found := (List.range 17).findSome? fun (places : Nat) =>
    interval.nearestOn (exponent - places)
  match found with
  | some result => if result.digits = 10 then ⟨1, result.scale + 1⟩ else result
  | none => ⟨interval.value, 0⟩

/-- Which exponents of the leading digit are written positionally, and how the others are. -/
structure Layout where
  leastPositional : Int
  greatestPositional : Int
  exponentMark : String
  plusSign : String
  wholeSuffix : String

/-- Write a positive decimal number. -/
def Layout.render (layout : Layout) (number : Digits) : String :=
  let digits := toString number.digits
  let count : Int := digits.length
  let exponent := number.scale + count - 1
  if layout.leastPositional ≤ exponent && exponent ≤ layout.greatestPositional then
    if 0 ≤ number.scale then
      digits ++ "".pushn '0' number.scale.toNat ++ layout.wholeSuffix
    else if 0 ≤ exponent then
      let (whole, fraction) := digits.toList.splitAt (exponent.toNat + 1)
      String.ofList whole ++ "." ++ String.ofList fraction
    else
      "0." ++ "".pushn '0' (-exponent - 1).toNat ++ digits
  else
    let mantissa := match digits.toList with
      | [] => ""
      | [digit] => String.ofList [digit]
      | digit :: more => String.ofList (digit :: '.' :: more)
    let sign := if exponent < 0 then "-" else layout.plusSign
    mantissa ++ layout.exponentMark ++ sign ++ toString exponent.natAbs

end MarkupLint.Decimal
