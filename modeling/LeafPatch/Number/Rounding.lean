import LeafPatch.Number.Basic

/-!
# Rounding to the nearest double

A quotient of natural numbers is rounded to the nearest double, and a quotient
halfway between two doubles to the one of even rank.  Products, quotients and
readings of decimal numerals all go through this one rounding, so each of them
is rounded exactly once.
-/

namespace LeafPatch

/-- The quotient rounded to the nearest natural number, halves going to the even one. -/
def roundHalfEven (numerator denominator : Nat) : Nat :=
  let quotient := numerator / denominator
  let doubled := 2 * (numerator % denominator)
  if doubled < denominator then
    quotient
  else if doubled = denominator then
    quotient + quotient % 2
  else
    quotient + 1

namespace Number

/--
The rank of the double nearest to `numerator / denominator`.

The quotient is taken in units.  Below `2 ^ 53` units a magnitude is its own
rank; above, each doubling of the magnitude adds one binade of ranks, and the
quotient is rounded at the spacing of its binade.
-/
def nearestRank (numerator denominator : Nat) : Nat :=
  let scaled := numerator * unitsPerOne
  let shift := Nat.log2 (scaled / denominator) - 52
  shift * binadeSize + roundHalfEven scaled (denominator * Nat.pow 2 shift)

/-- The double nearest to a quotient, unless that is beyond the finite ones. -/
def nearest?
    (negative : Bool)
    (numerator denominator : Nat) :
    Option Number :=
  ofRank? negative (nearestRank numerator denominator)

/--
The double nearest to an integer.  Integers of up to 64 bits are well inside
the finite range; beyond it the greatest double stands in.
-/
def ofInt (value : Int) : Number :=
  ofRank (value < 0) (nearestRank value.natAbs 1)

/-- The double nearest to a power of ten, for the exponents at which it is finite. -/
def powerOfTen (exponent : Nat) : Number :=
  ofRank false (nearestRank (Nat.pow 10 exponent) 1)

/-- The rounded product with a power of ten, unless it is beyond the finite doubles. -/
def multiplyByPowerOfTen?
    (number : Number)
    (exponent : Nat) :
    Option Number :=
  nearest? number.negative
    (number.magnitude * (powerOfTen exponent).magnitude)
    (unitsPerOne * unitsPerOne)

/-- The rounded quotient by a power of ten. -/
def divideByPowerOfTen (number : Number) (exponent : Nat) : Number :=
  ofRank number.negative
    (nearestRank number.magnitude (powerOfTen exponent).magnitude)

end Number

end LeafPatch
