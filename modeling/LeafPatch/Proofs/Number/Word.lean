import LeafPatch.Proofs.Number.Exact

/-!
# Doubles and words

A double can be turned into a word of 64 bits by dropping its fraction; beyond the
range of the word the nearest end of the range is taken.  Nothing is dropped and
no end is taken if the double is integral and in range.

Whether it is in range is told by comparing it with doubles: with those nearest to
the least and to the greatest word.  The least signed word is a double itself.
The greatest words are none, and the doubles nearest to them are the powers of
two just above.  So it is the doubles below those that are in range.

The canonical form of a double is the word that it is turned into, signed if it is
in that range and otherwise unsigned, and the double itself where it is in
neither.  Negative zero, which would lose its sign, stays a double.
-/

namespace LeafPatch

namespace Number

/-! ## Encodings -/

@[simp]
theorem ofBits_bits (number : Number) : ofBits number.bits = .ok number := by
  rcases number with ⟨negative, rank, bound⟩
  have small : rank < signBit := Nat.lt_trans bound (by decide)
  have sameRank : bits ⟨negative, rank, bound⟩ % signBit = rank := by
    cases negative
    · exact (Nat.mod_eq_of_lt (by simpa [bits] using small)).trans (by simp [bits])
    · simp [bits, Nat.mod_eq_of_lt small]
  have sameSign : (bits ⟨negative, rank, bound⟩ / signBit % 2 == 1) = negative := by
    cases negative
    · simp [bits, Nat.div_eq_of_lt small]
    · simp [bits, Nat.add_div_left rank (show 0 < signBit by decide),
        Nat.div_eq_of_lt small]
  simp only [ofBits, sameRank, sameSign, bound, dite_true]

/-- A finite double has the encoding from which it is taken. -/
theorem bits_of_ofBits
    {encoding : Nat}
    {number : Number}
    (small : encoding < 18446744073709551616)
    (decoded : ofBits encoding = .ok number) :
    number.bits = encoding := by
  unfold ofBits at decoded
  dsimp only at decoded
  split at decoded
  · cases decoded
    by_cases negative : encoding / 9223372036854775808 % 2 = 1
    · simp only [bits, signBit, negative, beq_self_eq_true, if_true]
      omega
    · simp only [bits, signBit, beq_iff_eq, negative, if_false]
      omega
  · split at decoded <;> cases decoded

/-! ## Integral doubles -/

/-- The double has the value of an integer. -/
def Equals (number : Number) (value : Int) : Prop :=
  number.units = value * unitsPerOne

theorem unitsPerOne_ne_zero : (unitsPerOne : Int) ≠ 0 :=
  Int.natCast_ne_zero.mpr (Nat.ne_of_gt unitsPerOne_pos)

theorem Equals.unique
    {number : Number}
    {value other : Int}
    (isValue : number.Equals value)
    (isOther : number.Equals other) :
    value = other :=
  Int.eq_of_mul_eq_mul_right unitsPerOne_ne_zero (isValue.symm.trans isOther)

theorem integer?_eq_some_iff
    {number : Number}
    {value : Int} :
    number.integer? = some value ↔ number.Equals value := by
  constructor
  · exact Numeral.units_of_integer?_eq_some
  · intro equal
    have exactly := congrArg Int.natAbs equal
    rw [natAbs_units, ← magnitude, Int.natAbs_mul, Int.natAbs_natCast] at exactly
    have divides : number.magnitude % unitsPerOne = 0 := by
      rw [exactly, Nat.mul_mod_left]
    cases whole : number.integer? with
    | none =>
        rw [integer?, if_pos divides] at whole
        cases whole
    | some other =>
        have isOther : number.Equals other :=
          Numeral.units_of_integer?_eq_some whole
        rw [isOther.unique equal]

/-! ## Turning a double into a word -/

/-- The integer that is left when the fraction is dropped. -/
def truncated (number : Number) : Int :=
  number.units.tdiv unitsPerOne

/-- The signed word that a double is turned into. -/
def signedWord (number : Number) : Int64 :=
  Int64.ofIntClamp number.truncated

/-- The unsigned word that a double is turned into. -/
def unsignedWord (number : Number) : UInt64 :=
  UInt64.ofNatClamp number.truncated.toNat

/-- Whether a double has no fraction to drop and no sign to lose. -/
def isConvertible (number : Number) : Bool :=
  number.units.tmod unitsPerOne == 0 && !number.isNegativeZero

/-- Whether a double is between those nearest to the ends of the signed words. -/
def fitsSigned (number : Number) : Bool :=
  (ofInt Int64.minValue.toInt).units ≤ number.units
    && number.units < (ofInt Int64.maxValue.toInt).units

/-- Whether a double is between those nearest to the ends of the unsigned words. -/
def fitsUnsigned (number : Number) : Bool :=
  zero.units ≤ number.units
    && number.units < (ofInt 18446744073709551615).units

theorem equals_ofInt_minValue :
    (ofInt Int64.minValue.toInt).Equals (-9223372036854775808) := by
  unfold Equals
  decide +kernel

/-- The greatest signed word is no double, and the next double is a power of two. -/
theorem equals_ofInt_maxValue :
    (ofInt Int64.maxValue.toInt).Equals 9223372036854775808 := by
  unfold Equals
  decide +kernel

/-- Neither is the greatest unsigned word. -/
theorem equals_ofInt_maxUnsigned :
    (ofInt 18446744073709551615).Equals 18446744073709551616 := by
  unfold Equals
  decide +kernel

section Integral

variable
    {number : Number}
    {value : Int}

theorem isConvertible_iff :
    number.isConvertible = true ↔
      (∃ value, number.Equals value) ∧ number.isNegativeZero = false := by
  rw [isConvertible, Bool.and_eq_true, beq_iff_eq, Bool.not_eq_true',
    ← Int.dvd_iff_tmod_eq_zero]
  refine and_congr_left fun _ => ?_
  constructor
  · rintro ⟨value, equal⟩
    exact ⟨value, equal.trans (Int.mul_comm _ _)⟩
  · rintro ⟨value, equal⟩
    exact ⟨value, equal.trans (Int.mul_comm _ _)⟩

/-- Integral doubles are compared as the integers. -/
theorem Equals.units_le_iff
    {other : Number}
    {otherValue : Int}
    (equal : number.Equals value)
    (otherEqual : other.Equals otherValue) :
    number.units ≤ other.units ↔ value ≤ otherValue := by
  rw [equal, otherEqual]
  exact Int.mul_le_mul_right (Int.natCast_pos.mpr unitsPerOne_pos)

theorem Equals.units_lt_iff
    {other : Number}
    {otherValue : Int}
    (equal : number.Equals value)
    (otherEqual : other.Equals otherValue) :
    number.units < other.units ↔ value < otherValue := by
  rw [← Int.not_le, otherEqual.units_le_iff equal, Int.not_le]

variable (equal : number.Equals value)

include equal

theorem Equals.truncated : number.truncated = value := by
  rw [Number.truncated, equal, Int.mul_tdiv_cancel _ unitsPerOne_ne_zero]

theorem Equals.fitsSigned_iff :
    number.fitsSigned = true ↔
      -9223372036854775808 ≤ value ∧ value < 9223372036854775808 := by
  rw [fitsSigned, Bool.and_eq_true, decide_eq_true_iff, decide_eq_true_iff,
    equals_ofInt_minValue.units_le_iff equal,
    equal.units_lt_iff equals_ofInt_maxValue]

theorem Equals.fitsUnsigned_iff :
    number.fitsUnsigned = true ↔ 0 ≤ value ∧ value < 18446744073709551616 := by
  have isZero : zero.Equals 0 := by
    unfold Equals
    decide +kernel
  rw [fitsUnsigned, Bool.and_eq_true, decide_eq_true_iff, decide_eq_true_iff,
    isZero.units_le_iff equal, equal.units_lt_iff equals_ofInt_maxUnsigned]

/-- A double in the signed range is turned into its value. -/
theorem Equals.toInt_signedWord
    (fits : number.fitsSigned = true) :
    number.signedWord.toInt = value := by
  have range := equal.fitsSigned_iff.mp fits
  rw [signedWord, equal.truncated]
  exact Int64.toInt_ofIntClamp range.1 (Int.le_of_lt_add_one range.2)

/-- A double in the unsigned range is turned into its value. -/
theorem Equals.toNat_unsignedWord
    (fits : number.fitsUnsigned = true) :
    (number.unsignedWord.toNat : Int) = value := by
  have range := equal.fitsUnsigned_iff.mp fits
  have small : value.toNat < UInt64.size := by
    rw [UInt64.size]
    omega
  rw [unsignedWord, equal.truncated, UInt64.toNat_ofNatClamp_of_lt small,
    Int.toNat_of_nonneg range.1]

end Integral

end Number

namespace Numeral

open Number (Equals)

/-- The number of a signed word. -/
def ofSigned (word : Int64) : Numeral :=
  .integer word.toInt
    ⟨word.le_toInt, Int.lt_trans word.toInt_lt (by decide)⟩

/-- The number of an unsigned word. -/
def ofUnsigned (word : UInt64) : Numeral :=
  .integer word.toNat (fitsWord_natCast word.toNat_lt)

/-- The number of an encoded double, if that is finite. -/
def ofBits? (encoding : Nat) : Option Numeral :=
  match Number.ofBits encoding with
  | .ok number => some (float number)
  | .error _ => none

/--
The number of a double, found by comparing it with other doubles and turning it
into a word or into a number by its encoding.
-/
def convert? (number : Number) : Option Numeral :=
  if number.isConvertible then
    if number.fitsSigned then
      some (ofSigned number.signedWord)
    else if number.fitsUnsigned then
      some (ofUnsigned number.unsignedWord)
    else
      ofBits? number.bits
  else
    ofBits? number.bits

section Canonical

variable
    {number : Number}
    {value : Int}

theorem ofNumber_of_equals
    (equal : number.Equals value)
    (unsigned : number.isNegativeZero = false)
    (fits : FitsWord value) :
    ofNumber number = integer value fits := by
  rw [ofNumber, unsigned, if_neg Bool.false_ne_true,
    Number.integer?_eq_some_iff.mpr equal]
  exact dif_pos fits

theorem ofNumber_eq_float
    (noWord :
      number.isNegativeZero = true
        ∨ ∀ value, number.Equals value → ¬ FitsWord value) :
    ofNumber number = float number := by
  unfold ofNumber
  split
  · rfl
  · next unsigned =>
      split
      · next value whole =>
          rw [Number.integer?_eq_some_iff] at whole
          exact dif_neg ((noWord.resolve_left unsigned) value whole)
      · rfl

/--
The form that a double is to be written in: the integer of its value, if that has
64 bits and the double is not negative zero, and otherwise the double itself.
-/
inductive IsCanonicalOf : Numeral → Number → Prop where
  | integer
      {number : Number}
      {value : Int}
      (equal : number.Equals value)
      (unsigned : number ≠ Number.signedZero true)
      (fits : FitsWord value) :
      IsCanonicalOf (.integer value fits) number
  | float
      {number : Number}
      (noWord :
        number = Number.signedZero true
          ∨ ∀ value, number.Equals value → ¬ FitsWord value) :
      IsCanonicalOf (.float number) number

theorem isCanonicalOf_iff {numeral : Numeral} :
    numeral.IsCanonicalOf number ↔ numeral = ofNumber number := by
  constructor
  · intro canonical
    cases canonical with
    | integer equal unsigned fits =>
        rw [ne_eq, ← Number.isNegativeZero_iff, Bool.not_eq_true] at unsigned
        exact (ofNumber_of_equals equal unsigned fits).symm
    | float noWord =>
        rw [← Number.isNegativeZero_iff] at noWord
        exact (ofNumber_eq_float noWord).symm
  · rintro rfl
    cases unsigned : number.isNegativeZero with
    | true =>
        rw [ofNumber_eq_float (Or.inl unsigned)]
        exact .float (Or.inl (Number.isNegativeZero_iff.mp unsigned))
    | false =>
        by_cases word : ∃ value, number.Equals value ∧ FitsWord value
        · rcases word with ⟨value, equal, fits⟩
          rw [ofNumber_of_equals equal unsigned fits]
          rw [← Bool.not_eq_true, Number.isNegativeZero_iff] at unsigned
          exact .integer equal unsigned fits
        · have noWord : ∀ value, number.Equals value → ¬ FitsWord value :=
            fun value equal fits => word ⟨value, equal, fits⟩
          rw [ofNumber_eq_float (Or.inr noWord)]
          exact .float (Or.inr noWord)

theorem ofNumber_of_fitsSigned
    (equal : number.Equals value)
    (unsigned : number.isNegativeZero = false)
    (fits : number.fitsSigned = true) :
    ofNumber number = ofSigned number.signedWord := by
  have isValue := equal.toInt_signedWord fits
  subst isValue
  exact ofNumber_of_equals equal unsigned _

theorem ofNumber_of_fitsUnsigned
    (equal : number.Equals value)
    (unsigned : number.isNegativeZero = false)
    (fits : number.fitsUnsigned = true) :
    ofNumber number = ofUnsigned number.unsignedWord := by
  have isValue := equal.toNat_unsignedWord fits
  subst isValue
  exact ofNumber_of_equals equal unsigned _

theorem ofBits?_bits (number : Number) :
    ofBits? number.bits = some (float number) := by
  rw [ofBits?, Number.ofBits_bits]

end Canonical

/-- Comparisons and words lead to the canonical form, whatever the double. -/
theorem convert?_eq_ofNumber (number : Number) :
    convert? number = some (ofNumber number) := by
  unfold convert?
  split
  · next convertible =>
      rcases Number.isConvertible_iff.mp convertible with
        ⟨⟨value, equal⟩, unsigned⟩
      split
      · next fits => rw [ofNumber_of_fitsSigned equal unsigned fits]
      · next notSigned =>
          split
          · next fits => rw [ofNumber_of_fitsUnsigned equal unsigned fits]
          · next notUnsigned =>
              have noWord : ¬ FitsWord value := by
                rw [equal.fitsSigned_iff] at notSigned
                rw [equal.fitsUnsigned_iff] at notUnsigned
                unfold FitsWord
                omega
              rw [ofBits?_bits, ofNumber_eq_float]
              exact Or.inr fun other isOther => equal.unique isOther ▸ noWord
  · next notConvertible =>
      rw [ofBits?_bits, ofNumber_eq_float]
      rw [Number.isConvertible_iff, not_and, Bool.not_eq_false] at notConvertible
      by_cases integral : ∃ value, number.Equals value
      · exact Or.inl (notConvertible integral)
      · exact Or.inr fun value equal => absurd ⟨value, equal⟩ integral

/--
The canonical form of a double is found by comparing it with other doubles and
turning it into a word, and whenever that is done the word is the exact value.

An integral double other than negative zero has the form of the signed word equal
to it where there is one, and otherwise that of the unsigned word equal to it.
All others, negative zero and those beyond 64 bits among them, keep the form of a
double.  Reading the form gives back the double with the same encoding.
-/
theorem ofNumber_exact (number : Number) :
    (number.isNegativeZero = true ↔ number = Number.signedZero true)
      ∧ (∀ value, number.Equals value → number.isNegativeZero = false →
          (-9223372036854775808 ≤ value → value < 9223372036854775808 →
              ∃ word : Int64, word.toInt = value
                ∧ ofNumber number = ofSigned word)
            ∧ (9223372036854775808 ≤ value → value < 18446744073709551616 →
                ∃ word : UInt64, (word.toNat : Int) = value
                  ∧ ofNumber number = ofUnsigned word))
      ∧ (number.isNegativeZero = true
            ∨ (∀ value, number.Equals value →
                value < -9223372036854775808
                  ∨ 18446744073709551616 ≤ value) →
          ofNumber number = float number)
      ∧ convert? number = some (ofNumber number)
      ∧ (number.isConvertible = true → number.fitsSigned = true →
          number.Equals number.signedWord.toInt)
      ∧ (number.isConvertible = true → number.fitsSigned = false →
          number.fitsUnsigned = true →
            number.Equals number.unsignedWord.toNat)
      ∧ ∀ encoding, encoding < 18446744073709551616 →
          Number.ofBits encoding = .ok number →
            (ofNumber number).number.bits = encoding := by
  refine
    ⟨Number.isNegativeZero_iff, ?_, ?_, convert?_eq_ofNumber number, ?_, ?_, ?_⟩
  · intro value equal unsigned
    constructor
    · intro least greatest
      have fits := equal.fitsSigned_iff.mpr ⟨least, greatest⟩
      exact
        ⟨_, equal.toInt_signedWord fits,
          ofNumber_of_fitsSigned equal unsigned fits⟩
    · intro least greatest
      have fits := equal.fitsUnsigned_iff.mpr ⟨by omega, greatest⟩
      exact
        ⟨_, equal.toNat_unsignedWord fits,
          ofNumber_of_fitsUnsigned equal unsigned fits⟩
  · intro noWord
    apply ofNumber_eq_float
    refine noWord.imp_right fun beyond value equal fits => ?_
    have outside := beyond value equal
    unfold FitsWord at fits
    omega
  · intro convertible fits
    rcases (Number.isConvertible_iff.mp convertible).1 with ⟨value, equal⟩
    rw [equal.toInt_signedWord fits]
    exact equal
  · intro convertible _ fits
    rcases (Number.isConvertible_iff.mp convertible).1 with ⟨value, equal⟩
    rw [equal.toNat_unsignedWord fits]
    exact equal
  · intro encoding small decoded
    rw [number_ofNumber]
    exact Number.bits_of_ofBits small decoded

/--
At the ends of the ranges: the least signed word is exact, the greatest is rounded
to a double that only an unsigned word equals, the greatest unsigned word to one
that no word equals.
-/
theorem ofNumber_exact_ends :
    ofNumber (Number.ofInt Int64.minValue.toInt) = ofSigned Int64.minValue
      ∧ ofNumber (Number.ofInt Int64.maxValue.toInt) =
          ofUnsigned 9223372036854775808
      ∧ ofNumber (Number.ofInt 18446744073709551615) =
          float (Number.ofInt 18446744073709551615)
      ∧ ofNumber (Number.signedZero true) = float (Number.signedZero true) := by
  refine ⟨?_, ?_, ?_, ?_⟩
  · rcases ofNumber_exact (Number.ofInt Int64.minValue.toInt) with ⟨-, words, -⟩
    rcases
        (words _ Number.equals_ofInt_minValue (by decide +kernel)).1
          (Int.le_refl _) (by decide) with
      ⟨word, isLeast, written⟩
    have same : word.toInt = Int64.minValue.toInt := isLeast.trans (by decide)
    rw [written, Int64.toInt_inj.mp same]
  · rcases ofNumber_exact (Number.ofInt Int64.maxValue.toInt) with ⟨-, words, -⟩
    rcases
        (words _ Number.equals_ofInt_maxValue (by decide +kernel)).2
          (Int.le_refl _) (by decide) with
      ⟨word, isPower, written⟩
    have same : word.toNat = UInt64.toNat 9223372036854775808 :=
      Int.natCast_inj.mp isPower
    rw [written, UInt64.toNat_inj.mp same]
  · rcases ofNumber_exact (Number.ofInt 18446744073709551615) with
      ⟨-, -, float, -⟩
    refine float (Or.inr fun value equal => Or.inr ?_)
    exact Int.le_of_eq (equal.unique Number.equals_ofInt_maxUnsigned).symm
  · rcases ofNumber_exact (Number.signedZero true) with ⟨-, -, float, -⟩
    exact float (Or.inl rfl)

end Numeral

end LeafPatch
