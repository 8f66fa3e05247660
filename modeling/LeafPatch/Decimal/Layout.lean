import LeafPatch.Decimal.Shortest

/-!
# Written form of doubles

A double is written with its shortest digits, positionally while the exponent of
its leading digit is in a fixed range and in scientific notation elsewhere.  A
positional form always has a fraction point with a digit on either side; a
scientific form has one only between two digits.  What varies between contexts
is whether a positive exponent carries its sign.
-/

namespace LeafPatch

/-- The choices that fix the written form of a double. -/
structure FloatLayout where
  /-- The least exponent of the leading digit that is written positionally. -/
  leastPositional : Int
  /-- The least exponent above it that is no longer written positionally. -/
  leastScientific : Int
  /-- Whether an exponent that is not negative has a plus sign. -/
  exponentPlus : Bool

namespace FloatLayout

/-- JSON text: `0.00001` and `1e-6`, `1234567890123456.0` and `1e+16`. -/
def json : FloatLayout :=
  ⟨-5, 16, true⟩

/-- Descriptions of values in messages: as in JSON, but `1e16`. -/
def description : FloatLayout :=
  ⟨-5, 16, false⟩

/-- Digits with the fraction point after the digit of exponent zero. -/
def positional (decimal : Decimal) : List Char :=
  let digits := decimal.digits
  if decimal.exponent < 0 then
    '0' :: '.' :: List.replicate (-decimal.exponent - 1).toNat '0' ++ digits
  else if 0 ≤ decimal.scale then
    digits ++ List.replicate decimal.scale.toNat '0' ++ ['.', '0']
  else
    let whole := decimal.exponent.toNat + 1
    digits.take whole ++ '.' :: digits.drop whole

/-- One digit, the point and the other digits if there are any, and the exponent. -/
def scientific (layout : FloatLayout) (decimal : Decimal) : List Char :=
  let mantissa :=
    match decimal.digits with
    | first :: second :: others => first :: '.' :: second :: others
    | single => single
  let sign :=
    if decimal.exponent < 0 then ['-']
    else if layout.exponentPlus then ['+']
    else []
  mantissa ++ 'e' :: sign ++ Nat.toDigits 10 decimal.exponent.natAbs

/-- The written form of a double. -/
def write (layout : FloatLayout) (number : Number) : List Char :=
  let decimal := Decimal.shortest number.rank
  let positionally :=
    layout.leastPositional ≤ decimal.exponent
      && decimal.exponent < layout.leastScientific
  let unsigned :=
    if positionally then positional decimal else layout.scientific decimal
  if number.negative then '-' :: unsigned else unsigned

end FloatLayout

end LeafPatch
