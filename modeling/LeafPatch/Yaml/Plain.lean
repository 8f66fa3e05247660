import LeafPatch.Number.Width
import LeafPatch.Yaml.Basic

/-!
# Resolution of scalars

The content of a plain scalar is null, a boolean, an integer or a floating-point
number if it is written like one, and a string otherwise.  A standard tag asks
for one of these kinds, whatever the style of the scalar.

Integers of more than 64 bits are refused up to 128 bits; a longer decimal
integer is a floating-point number.  A decimal with superfluous leading zeros is
a string.
-/

namespace LeafPatch.Yaml

/-! ## Null and booleans -/

/-- Whether a scalar is written like null. -/
def isNull (content : String) : Bool :=
  ["~", "null", "Null", "NULL"].contains content

/-- The boolean that a scalar is written like. -/
def bool? (content : String) : Option Bool :=
  if ["true", "True", "TRUE"].contains content then
    some true
  else if ["false", "False", "FALSE"].contains content then
    some false
  else
    none

/-! ## Integers -/

/-- The value of a digit of a base up to sixteen. -/
def digitValue? (base : Nat) (digit : Char) : Option Nat :=
  let value :=
    if digit.isDigit then
      some (digit.toNat - '0'.toNat)
    else if 'a' ≤ digit ∧ digit ≤ 'f' then
      some (digit.toNat - 'a'.toNat + 10)
    else if 'A' ≤ digit ∧ digit ≤ 'F' then
      some (digit.toNat - 'A'.toNat + 10)
    else
      none
  value.filter (· < base)

/-- The natural number that digits of a base spell; there has to be one. -/
def natural? (base : Nat) (digits : List Char) : Option Nat := do
  guard !digits.isEmpty
  digits.foldlM
    (fun value digit => (digitValue? base digit).map (value * base + ·)) 0

/-- A natural number after a letter that names its base, or in decimal. -/
def magnitude? (text : List Char) : Option Nat :=
  match text with
  | '0' :: 'x' :: digits => natural? 16 digits
  | '0' :: 'o' :: digits => natural? 8 digits
  | '0' :: 'b' :: digits => natural? 2 digits
  | digits => natural? 10 digits

/-- The text without a sign in front of it. -/
def unsigned (text : List Char) : List Char :=
  match text with
  | '+' :: rest => rest
  | '-' :: rest => rest
  | text => text

/-- Whether a scalar is a decimal with superfluous leading zeros. -/
def hasLeadingZero (text : List Char) : Bool :=
  match unsigned text with
  | '0' :: digit :: rest => (digit :: rest).all Char.isDigit
  | _ => false

/-- The integer that a scalar is written like. -/
def integer? (text : List Char) : Option Int :=
  if hasLeadingZero text then
    none
  else
    match text with
    | '-' :: rest => (magnitude? rest).map fun value => -(value : Int)
    | '+' :: rest => (magnitude? rest).map Int.ofNat
    | text => (magnitude? text).map Int.ofNat

/-! ## Floating-point numbers -/

/-- A decimal numeral: digits with an exponent of ten. -/
structure Numeral where
  coefficient : Nat
  exponent : Int

/-- Reads the exponent of a decimal numeral. -/
def exponent? (text : List Char) : Option Int :=
  match text with
  | [] => some 0
  | letter :: text =>
      if letter = 'e' ∨ letter = 'E' then
        match text with
        | '-' :: digits => (natural? 10 digits).map fun value => -(value : Int)
        | '+' :: digits => (natural? 10 digits).map Int.ofNat
        | digits => (natural? 10 digits).map Int.ofNat
      else
        none

/-- Reads a decimal numeral: digits, a point among, before or after them, and an exponent. -/
def numeral? (text : List Char) : Option Numeral := do
  let whole := text.takeWhile Char.isDigit
  let rest := text.dropWhile Char.isDigit
  let (fraction, rest) :=
    match rest with
    | '.' :: rest =>
        (rest.takeWhile Char.isDigit, rest.dropWhile Char.isDigit)
    | rest => ([], rest)
  let coefficient ← natural? 10 (whole ++ fraction)
  let exponent ← exponent? rest
  return ⟨coefficient, exponent - fraction.length⟩

/-- Decimal exponents beyond which every coefficient rounds to zero or is too large. -/
def exponentReach : Int :=
  400

/-- The double nearest to a decimal numeral, if that is finite. -/
def Numeral.nearest? (negative : Bool) (numeral : Numeral) : Option Number :=
  let length := (Nat.toDigits 10 numeral.coefficient).length
  let leading := numeral.exponent + length
  if numeral.coefficient = 0 ∨ leading < -exponentReach then
    some (Number.signedZero negative)
  else if exponentReach < leading then
    none
  else
    Number.nearest? negative
      (numeral.coefficient * Nat.pow 10 numeral.exponent.toNat)
      (Nat.pow 10 (-numeral.exponent).toNat)

/-- The double that a scalar without a plus sign is written like, if it is finite. -/
def decimal? (text : List Char) : Option Number :=
  match text with
  | '-' :: rest => (numeral? rest).bind (Numeral.nearest? true)
  | text => (numeral? text).bind (Numeral.nearest? false)

/-- The spellings of infinity. -/
def infinities : List (List Char) :=
  [".inf".toList, ".Inf".toList, ".INF".toList]

/-- The spellings of the value that is no number. -/
def notNumbers : List (List Char) :=
  [".nan".toList, ".NaN".toList, ".NAN".toList]

/-- The floating-point number that a scalar is written like. -/
def float? (text : List Char) : Option Yaml :=
  let (positive, rest) :=
    match text with
    | '+' :: rest => (true, rest)
    | text => (false, text)
  if infinities.contains rest then
    some (nonFinite (.infinity false))
  else if !positive && rest.head? == some '-'
      && infinities.contains (rest.drop 1) then
    some (nonFinite (.infinity true))
  else if !positive && notNumbers.contains rest then
    some (nonFinite .notANumber)
  else if positive && (rest.head? == some '-' || rest.head? == some '+') then
    none
  else
    (decimal? rest).map float

/-! ## Resolution -/

/--
The integer that a scalar is written like, or `some none` if it has more than
64 bits but no more than 128.
-/
def boundedInteger? (text : List Char) : Option (Option Yaml) :=
  match integer? text with
  | some value =>
      if FitsWord value then
        some (some (integer value))
      else if FitsDoubleWord value then
        some none
      else
        none
  | none => none

/-- What the content of a plain scalar says; nothing if it is refused. -/
def ofPlain? (content : String) : Option Yaml :=
  if content.isEmpty || isNull content then
    some null
  else
    match bool? content with
    | some value => some (bool value)
    | none =>
        let characters := content.toList
        match boundedInteger? characters with
        | some found => found
        | none =>
            if hasLeadingZero characters then
              some (text content)
            else
              some ((float? characters).getD (text content))

/-- The kinds of scalars that standard tags ask for. -/
inductive StandardTag where
  | bool
  | integer
  | float
  | null
  deriving DecidableEq

/-- What a scalar with a standard tag says; nothing if it is not written like that. -/
def ofStandard? (tag : StandardTag) (content : String) : Option Yaml :=
  match tag with
  | .bool => (bool? content).map bool
  | .integer => (boundedInteger? content.toList).join
  | .float => float? content.toList
  | .null => if isNull content then some null else none

end LeafPatch.Yaml
