import LeafPatch.Decimal.Layout
import LeafPatch.Number.Rounding
import LeafPatch.Number.Width

/-!
# JSON numbers

A number of a JSON document is an integer of at most 64 bits, signed or
unsigned, or a finite double.  Reading keeps an integer exact while it fits and
otherwise takes a double; writing gives integers in decimal and doubles in their
shortest form.

A double is read in two roundings: the digits that fit in 64 bits make up a
significand, which is rounded, and the power of ten that remains is multiplied
or divided in, with another rounding.  Digits beyond 64 bits only count towards
the power of ten, and digits of the fraction beyond 64 bits not at all.
-/

namespace LeafPatch

/-- A number of a JSON document. -/
inductive Numeral where
  | integer (value : Int) (fits : FitsWord value)
  | float (number : Number)
  deriving DecidableEq

namespace Numeral

instance : Inhabited Numeral :=
  ⟨float Number.zero⟩

/-- The number as a double. -/
def number : Numeral → Number
  | integer value _ => Number.ofInt value
  | float number => number

/--
The canonical JSON form of a double: an integer if it is integral, other than
negative zero and of at most 64 bits, and the double itself otherwise.
-/
def ofNumber (number : Number) : Numeral :=
  if number.isNegativeZero then
    float number
  else
    match number.integer? with
    | some value =>
        if fits : FitsWord value then
          integer value fits
        else
          float number
    | none => float number

/-- The written form. -/
def write : Numeral → List Char
  | integer value _ => (toString value).toList
  | float number => FloatLayout.json.write number

/-! ## Reading -/

/-- Whether a digit can be appended to a significand of 64 bits. -/
def fits (significand digit : Nat) : Bool :=
  significand * 10 + digit < 18446744073709551616

/-- Appends digits to a significand while they fit; the digits left over are returned. -/
def accumulate (significand : Nat) : List Nat → Nat × List Nat
  | [] => (significand, [])
  | digit :: rest =>
      if fits significand digit then
        accumulate (significand * 10 + digit) rest
      else
        (significand, digit :: rest)

/-- The largest power of ten that is a finite double, as an exponent. -/
def greatestPower : Nat :=
  308

/-- Division by a power of ten, in steps by the largest power that is a double. -/
def scaleDown (number : Number) (exponent : Nat) : Number :=
  if number.rank = 0 then
    number
  else if exponent ≤ greatestPower then
    number.divideByPowerOfTen exponent
  else
    scaleDown
      (number.divideByPowerOfTen greatestPower)
      (exponent - greatestPower)
termination_by exponent
decreasing_by
  simp only [greatestPower] at *
  omega

/-- A significand times a power of ten as a double, unless it is beyond the finite ones. -/
def scale? (significand : Number) (exponent : Int) : Option Number :=
  if significand.rank = 0 then
    some significand
  else if exponent < 0 then
    some (scaleDown significand exponent.natAbs)
  else if exponent ≤ greatestPower then
    significand.multiplyByPowerOfTen? exponent.toNat
  else
    none

/-- The double of the given sign, significand and power of ten. -/
def assemble?
    (negative : Bool)
    (significand : Nat)
    (exponent : Int) :
    Option Numeral := do
  let magnitude ← scale? (Number.ofInt significand) exponent
  return float (if negative then magnitude.negate else magnitude)

/-- The values of decimal digits. -/
def digitValues (digits : List Char) : List Nat :=
  digits.map fun digit => digit.toNat - '0'.toNat

/-- Exponents at or above this are out of the range in which they are counted. -/
def exponentLimit : Nat :=
  2147483648

/-- Reads an exponent, after its letter, and assembles the double. -/
def withExponent?
    (negative : Bool)
    (significand : Nat)
    (exponent : Int)
    (text : List Char) :
    Option Numeral := do
  let (down, digits) :=
    match text with
    | '+' :: digits => (false, digits)
    | '-' :: digits => (true, digits)
    | digits => (false, digits)
  guard (!digits.isEmpty && digits.all Char.isDigit)
  let shift := Nat.ofDigitChars 10 digits 0
  if shift < exponentLimit then
    let shift : Int := shift
    assemble? negative significand
      (if down then exponent - shift else exponent + shift)
  else
    guard (down || significand == 0)
    return float (Number.signedZero negative)

/-- Reads what follows the integer digits and assembles the number. -/
def withFraction?
    (negative : Bool)
    (significand : Nat)
    (exponent : Int) :
    List Char → Option Numeral
  | [] => assemble? negative significand exponent
  | '.' :: text => do
      let digits := text.takeWhile Char.isDigit
      guard (!digits.isEmpty)
      let (significand, unread) :=
        accumulate significand (digitValues digits)
      let exponent := exponent - (digits.length - unread.length : Nat)
      match text.dropWhile Char.isDigit with
      | [] => assemble? negative significand exponent
      | 'e' :: text => withExponent? negative significand exponent text
      | 'E' :: text => withExponent? negative significand exponent text
      | _ => none
  | 'e' :: text => withExponent? negative significand exponent text
  | 'E' :: text => withExponent? negative significand exponent text
  | _ => none

/-- The integer of the given sign, as a double where 64 bits do not hold it. -/
def ofInteger (negative : Bool) (magnitude : Nat) : Numeral :=
  if negative && magnitude == 0 then
    float (Number.signedZero true)
  else
    let value : Int := if negative then -magnitude else magnitude
    if fits : FitsWord value then
      integer value fits
    else
      float (Number.ofInt value)

/--
Reads a number: a sign, digits with no superfluous leading zero, a fraction and
an exponent, of which only the digits must be there.
-/
def ofChars? (text : List Char) : Option Numeral := do
  let (negative, text) :=
    match text with
    | '-' :: text => (true, text)
    | text => (false, text)
  let digits := text.takeWhile Char.isDigit
  guard (!digits.isEmpty && (digits.length == 1 || digits.head? != some '0'))
  let (significand, unread) := accumulate 0 (digitValues digits)
  match text.dropWhile Char.isDigit, unread with
  | [], [] => return ofInteger negative significand
  | rest, unread => withFraction? negative significand unread.length rest

end Numeral

end LeafPatch
