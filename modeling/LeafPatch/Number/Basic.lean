/-!
# Finite double-precision numbers

Every number of a document is a finite IEEE 754 double.  It is held as a sign
together with the rank of its magnitude: the magnitudes of the finite doubles,
listed from zero upwards, are numbered consecutively, and that number is also
what the low 63 bits of the binary64 encoding spell.

All arithmetic is exact.  A finite double is an integral multiple of
`2 ^ (-1074)`, the spacing of the smallest doubles, so `Number.units` gives its
value as an integer with no rounding anywhere.  Equality by value and order are
comparisons of that integer; structural equality separates the two zeros and is
therefore the equality of encodings.
-/

namespace LeafPatch

/-- How many doubles lie at or above a power of two and below the next one. -/
def binadeSize : Nat :=
  4503599627370496

/-- The rank that the first magnitude beyond the finite doubles would have. -/
def rankLimit : Nat :=
  2047 * binadeSize

/-- How many units, multiples of `2 ^ (-1074)`, make up the number one. -/
def unitsPerOne : Nat :=
  Nat.pow 2 1074

/-- A finite double: its sign and the rank of its magnitude. -/
structure Number where
  negative : Bool
  rank : Nat
  rank_lt : rank < rankLimit
  deriving DecidableEq

/-- A double that is no number of any document. -/
inductive NonFinite where
  | infinity (negative : Bool)
  | notANumber
  deriving DecidableEq, Repr

namespace NonFinite

/-- The name under which an error reports the value. -/
def name : NonFinite → String
  | infinity false => "inf"
  | infinity true => "-inf"
  | notANumber => "NaN"

end NonFinite

namespace Number

/-- The magnitude of the given rank, in units. -/
def unitsOfRank (rank : Nat) : Nat :=
  if rank < binadeSize then
    rank
  else
    (binadeSize + rank % binadeSize) * Nat.pow 2 (rank / binadeSize - 1)

/-- The magnitude of a number, in units. -/
def magnitude (number : Number) : Nat :=
  unitsOfRank number.rank

/-- The exact value of a number, in units. -/
def units (number : Number) : Int :=
  if number.negative then -(number.magnitude : Int) else number.magnitude

/-- The zero of the given sign. -/
def signedZero (negative : Bool) : Number :=
  ⟨negative, 0, by decide⟩

/-- The number zero, without a sign. -/
def zero : Number :=
  signedZero false

instance : Inhabited Number :=
  ⟨zero⟩

/-- The number of the given sign and rank; beyond the last rank, the last one. -/
def ofRank (negative : Bool) (rank : Nat) : Number :=
  if bound : rank < rankLimit then
    ⟨negative, rank, bound⟩
  else
    ⟨negative, rankLimit - 1, by decide⟩

/-- The number of the given sign and rank, if the rank is that of a finite double. -/
def ofRank? (negative : Bool) (rank : Nat) : Option Number :=
  if bound : rank < rankLimit then some ⟨negative, rank, bound⟩ else none

@[simp]
theorem ofRank_rank (number : Number) :
    ofRank number.negative number.rank = number := by
  simp [ofRank, number.rank_lt]

/-- The number with the opposite sign. -/
def negate (number : Number) : Number :=
  { number with negative := !number.negative }

/-- Whether the number is negative zero, the one zero that is not written as an integer. -/
def isNegativeZero (number : Number) : Bool :=
  number.negative && number.rank == 0

theorem isNegativeZero_iff {number : Number} :
    number.isNegativeZero = true ↔ number = signedZero true := by
  rcases number with ⟨negative, rank, bound⟩
  simp [isNegativeZero, signedZero]

/-- The weight of the bit that gives the sign in the binary64 encoding. -/
def signBit : Nat :=
  9223372036854775808

/-- The binary64 encoding. -/
def bits (number : Number) : Nat :=
  (if number.negative then signBit else 0) + number.rank

/-- The number that a binary64 encoding stands for, or the other double it encodes. -/
def ofBits (bits : Nat) : Except NonFinite Number :=
  let negative := bits / signBit % 2 == 1
  let rank := bits % signBit
  if bound : rank < rankLimit then
    .ok ⟨negative, rank, bound⟩
  else if rank = rankLimit then
    .error (.infinity negative)
  else
    .error .notANumber

/-- Equality by value: the two zeros are equal. -/
def sameValue (left right : Number) : Bool :=
  left.units == right.units

/-- Order by value. -/
def order (left right : Number) : Ordering :=
  compare left.units right.units

@[simp]
theorem sameValue_iff (left right : Number) :
    left.sameValue right = true ↔ left.units = right.units := by
  simp [sameValue]

/-- The integer equal to the number, if there is one. -/
def integer? (number : Number) : Option Int :=
  if number.magnitude % unitsPerOne = 0 then
    let whole : Int := (number.magnitude / unitsPerOne : Nat)
    some (if number.negative then -whole else whole)
  else
    none

end Number

end LeafPatch
