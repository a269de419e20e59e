import MarkupLint.Decimal.Shortest
/-!
# Numbers of a document

An integer that fits 64 bits, signed or unsigned, stays an integer; every other number is a binary
floating point number. The two kinds are never equal, and a document shows which one it holds.
-/

namespace MarkupLint

namespace Json

/-- A number of a document. -/
inductive Number where
  | integer (value : Int)
  | real (value : Binary64)
deriving DecidableEq, Repr, Inhabited

namespace Number

/-- The greatest unsigned integer of 64 bits. -/
def greatestWord : Nat := 18446744073709551615

/-- The number of leading zeros after the point is limited by four, and whole numbers are written
out up to sixteen digits with `.0`; past that an exponent with its sign is written. -/
def layout : Decimal.Layout where
  leastPositional := -5
  greatestPositional := 15
  exponentMark := "e"
  plusSign := "+"
  wholeSuffix := ".0"

/-- The text of a floating point number. -/
def realText (value : Binary64) : String :=
  let sign := if value.negative then "-" else ""
  if value.isZero then sign ++ "0.0" else sign ++ layout.render (Decimal.shortest value)

/-- The text of a number. -/
def text : Number → String
  | .integer value => toString value
  | .real value => realText value

/-- The value as an unsigned integer of 32 bits, if the number is an integer in that range. -/
def toUInt32? : Number → Option UInt32
  | .integer value =>
      if 0 ≤ value ∧ value < 4294967296 then some (UInt32.ofNat value.toNat) else none
  | .real _ => none

/-- The value as a signed integer of 32 bits, if the number is an integer in that range. -/
def toInt32? : Number → Option Int
  | .integer value => if -2147483648 ≤ value ∧ value < 2147483648 then some value else none
  | .real _ => none

/-- The floating point number `± significand * 10 ^ exponent`: the significand is rounded first and
then multiplied or divided by one rounded power of ten. Below the least power that has a number the
division is made in steps; an exponent that drives the value past all numbers gives none. -/
def ofScientific (negative : Bool) (significand : Nat) (exponent : Int) : Option Binary64 :=
  (Binary64.ofNat significand).bind fun start =>
    let rec shrink : Nat → Binary64 → Nat → Option Binary64
      | 0, value, _ => some value
      | steps + 1, value, power =>
          if value.isZero then some value
          else if power ≤ 308 then (Binary64.powerOfTen power).bind value.div
          else
            ((Binary64.powerOfTen 308).bind value.div).bind fun smaller =>
              shrink steps smaller (power - 308)
    let magnitude :=
      if start.isZero then some start
      else if exponent < 0 then shrink 5 start (-exponent).toNat
      else if exponent ≤ 308 then (Binary64.powerOfTen exponent.toNat).bind start.mul
      else none
    magnitude.map fun value => if negative then value.neg else value

end Number

end Json

end MarkupLint
