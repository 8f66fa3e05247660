import LeafPatch.Number.Basic

/-!
# Shortest decimals

Among the decimals that read back as a given double, the one with the fewest
significant digits is chosen, of several the nearest to the double, and of two
equally near the one with the even last digit.

The decimals that read back as a double are those between the midpoints to its
two neighbours, the midpoints included exactly when its rank is even.  For a
fixed number of digits only the two points of that decimal grid around the
double can be the answer, so both are tried in exact arithmetic, for one digit,
two digits and so on.  Seventeen digits always suffice.
-/

namespace LeafPatch

/-- The decimal `coefficient * 10 ^ scale`. -/
structure Decimal where
  coefficient : Nat
  scale : Int
  deriving DecidableEq, Repr

namespace Decimal

/-- The digits of the coefficient, most significant first. -/
def digits (decimal : Decimal) : List Char :=
  Nat.toDigits 10 decimal.coefficient

/-- The exponent of the most significant digit: the decimal is `d.ddd * 10 ^ exponent`. -/
def exponent (decimal : Decimal) : Int :=
  decimal.scale + (decimal.digits.length : Int) - 1

/-- Moves trailing zeros of a coefficient below `10 ^ width` into the scale. -/
def stripZeros : Nat → Decimal → Decimal
  | 0, decimal => decimal
  | width + 1, decimal =>
      if decimal.coefficient % 10 = 0 then
        stripZeros width ⟨decimal.coefficient / 10, decimal.scale + 1⟩
      else
        decimal

/-- A closed interval, or an open one, of rationals with a common denominator. -/
structure Interval where
  lower : Nat
  upper : Nat
  closed : Bool

namespace Interval

/-- Membership of a rational with the interval's denominator. -/
def contains (interval : Interval) (point : Nat) : Bool :=
  if interval.closed then
    interval.lower ≤ point && point ≤ interval.upper
  else
    interval.lower < point && point < interval.upper

end Interval

/--
The reals that round to the magnitude of a nonzero rank, in half units: the
midpoints to the neighbouring magnitudes bound them, and ties go to even ranks.
-/
def roundingInterval (rank : Nat) : Interval where
  lower := Number.unitsOfRank (rank - 1) + Number.unitsOfRank rank
  upper := Number.unitsOfRank rank + Number.unitsOfRank (rank + 1)
  closed := rank % 2 == 0

/-- The exponent of the leading decimal digit of a nonzero magnitude given in units. -/
def leadingExponent (units : Nat) : Int :=
  if unitsPerOne ≤ units then
    ((Nat.toDigits 10 (units / unitsPerOne)).length : Int) - 1
  else
    -((Nat.toDigits 10 ((unitsPerOne - 1) / units)).length : Int)

/--
The point of the grid of multiples of `10 ^ scale` that reads back as the
magnitude of the given rank, if there is one.
-/
def onGrid? (rank : Nat) (scale : Int) : Option Decimal :=
  let refinement := Nat.pow 10 (-scale).toNat
  let step := 2 * unitsPerOne * Nat.pow 10 scale.toNat
  let interval := roundingInterval rank
  let refined : Interval :=
    { interval with
      lower := interval.lower * refinement
      upper := interval.upper * refinement }
  let value := 2 * Number.unitsOfRank rank * refinement
  let below := value / step
  let remainder := value % step
  let hitBelow := refined.contains (below * step)
  let hitAbove := refined.contains ((below + 1) * step)
  let preferAbove :=
    if 2 * remainder = step then below % 2 == 1 else step < 2 * remainder
  if hitAbove && (preferAbove || !hitBelow) then
    some ⟨below + 1, scale⟩
  else if hitBelow then
    some ⟨below, scale⟩
  else
    none

/-- The first grid with a hit, going from `count` digits up for `attempts` more grids. -/
def firstGrid (rank : Nat) (leading : Int) : Nat → Nat → Decimal
  | 0, count =>
      (onGrid? rank (leading - count)).getD ⟨0, 0⟩
  | attempts + 1, count =>
      match onGrid? rank (leading - count) with
      | some decimal => decimal
      | none => firstGrid rank leading attempts (count + 1)

/-- The shortest decimal that reads back as the magnitude of the given rank. -/
def shortest (rank : Nat) : Decimal :=
  if rank = 0 then
    ⟨0, 0⟩
  else
    stripZeros 17
      (firstGrid rank (leadingExponent (Number.unitsOfRank rank)) 16 0)

end Decimal

end LeafPatch
