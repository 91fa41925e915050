/-!
# Decimal numbers

A number as it is written: a sign, a whole coefficient and a power of ten. Its nearest binary
number is found only for exponents that can matter, so no text asks for a huge power of ten.
-/

namespace StoryCatalog.Number

/-- The number `coefficient * 10 ^ exponent`, negated or not; the sign of zero is kept. -/
structure Decimal where
  negative : Bool
  coefficient : Nat
  exponent : Int
  deriving DecidableEq, Repr

/-- The count of decimal digits of a number, one for zero. -/
def digitCount (n : Nat) : Nat :=
  (Nat.toDigits 10 n).length

/-- The first power of ten past the largest finite binary number is `10 ^ 309`. -/
def largestExponent : Int := 310

/-- Half of the least positive binary number lies above `10 ^ (-324)`. -/
def leastExponent : Int := -330

/-- The nearest binary number, ties going to the even one. -/
def Decimal.toFloat (d : Decimal) : Float :=
  let magnitude : Float :=
    if d.coefficient = 0 then 0.0
    else
      let highest := d.exponent + digitCount d.coefficient
      if largestExponent < highest then 1.0 / 0.0
      else if highest < leastExponent then 0.0
      else Float.ofScientific d.coefficient (d.exponent < 0) d.exponent.natAbs
  if d.negative then -magnitude else magnitude

/-- The nearest binary number of a whole number. -/
def nearest (n : Int) : Float :=
  Decimal.toFloat ⟨n < 0, n.natAbs, 0⟩

end StoryCatalog.Number
