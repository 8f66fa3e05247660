import LeafPatch.Json.Numeral
import LeafPatch.Proofs.Json.SameValue

/-!
# Numbers that need no rounding

Rounding leaves alone what is a double already: a quotient that is exactly the
magnitude of some rank has that rank for its nearest one.  In the binade of the
magnitude the quotient is a whole number of steps, and there is nothing to round.

A double that is written as an integer is therefore read back as itself, and so
is every double in its canonical form.  The one integral double of at most 64
bits that an integer would not give back is negative zero, which is not written
as one.
-/

namespace LeafPatch

theorem roundHalfEven_mul
    {denominator : Nat}
    (positive : 0 < denominator)
    (value : Nat) :
    roundHalfEven (value * denominator) denominator = value := by
  have noRest : value * denominator % denominator = 0 :=
    Nat.mul_mod_left value denominator
  rw [roundHalfEven, noRest, Nat.mul_zero, if_pos positive,
    Nat.mul_div_cancel value positive]

namespace Number

/-! ## Magnitudes and their binades -/

theorem unitsOfRank_of_lt
    {rank : Nat}
    (small : rank < binadeSize) :
    unitsOfRank rank = rank :=
  if_pos small

theorem unitsOfRank_of_le
    {rank : Nat}
    (large : binadeSize ≤ rank) :
    unitsOfRank rank =
      (binadeSize + rank % binadeSize)
        * Nat.pow 2 (rank / binadeSize - 1) :=
  if_neg (Nat.not_lt.mpr large)

theorem unitsOfRank_eq_zero_iff
    {rank : Nat} :
    unitsOfRank rank = 0 ↔ rank = 0 := by
  rcases Nat.lt_or_ge rank binadeSize with small | large
  · rw [unitsOfRank_of_lt small]
  · have steps : 0 < Nat.pow 2 (rank / binadeSize - 1) :=
      Nat.pow_pos (by decide)
    have nonzero : 0 < binadeSize := by decide
    rw [unitsOfRank_of_le large, Nat.mul_eq_zero]
    omega

theorem log2_unitsOfRank_of_lt
    {rank : Nat}
    (small : rank < binadeSize) :
    Nat.log2 (unitsOfRank rank) - 52 = 0 := by
  have size : 2 ^ 52 = binadeSize := by decide
  rw [unitsOfRank_of_lt small]
  by_cases none : rank = 0
  · rw [none]
    rfl
  · have below : Nat.log2 rank < 52 :=
      (Nat.log2_lt none).mpr (size ▸ small)
    omega

/-- The magnitudes of a binade are those between two powers of two. -/
theorem log2_unitsOfRank_of_le
    {rank : Nat}
    (large : binadeSize ≤ rank) :
    Nat.log2 (unitsOfRank rank) = 52 + (rank / binadeSize - 1) := by
  have nonzero : unitsOfRank rank ≠ 0 := by
    rw [ne_eq, unitsOfRank_eq_zero_iff]
    rintro rfl
    exact absurd large (by decide)
  have step : rank % binadeSize < binadeSize := Nat.mod_lt _ (by decide)
  have size : Nat.pow 2 52 = binadeSize := by decide
  rw [Nat.log2_eq_iff nonzero, unitsOfRank_of_le large]
  generalize rank / binadeSize - 1 = shift
  constructor
  · calc
      2 ^ (52 + shift) = Nat.pow 2 52 * Nat.pow 2 shift := Nat.pow_add 2 52 shift
      _ ≤ (binadeSize + rank % binadeSize) * Nat.pow 2 shift :=
        Nat.mul_le_mul_right _ (by omega)
  · calc
      (binadeSize + rank % binadeSize) * Nat.pow 2 shift
          < (2 * Nat.pow 2 52) * Nat.pow 2 shift :=
        Nat.mul_lt_mul_of_pos_right (by omega) (Nat.pow_pos (by decide))
      _ = 2 ^ (52 + shift + 1) := by
        rw [Nat.pow_succ 2 (52 + shift), Nat.pow_add 2 52 shift,
          Nat.mul_comm _ 2, Nat.mul_assoc]
        rfl

/-! ## Rounding what is exact -/

/-- A quotient that is exactly the magnitude of a rank is rounded to that rank. -/
theorem nearestRank_of_exact
    {numerator denominator rank : Nat}
    (positive : 0 < denominator)
    (exactly :
      numerator * unitsPerOne = unitsOfRank rank * denominator) :
    nearestRank numerator denominator = rank := by
  have quotient :
      unitsOfRank rank * denominator / denominator = unitsOfRank rank :=
    Nat.mul_div_cancel _ positive
  rw [nearestRank, exactly, quotient]
  rcases Nat.lt_or_ge rank binadeSize with small | large
  · show (Nat.log2 (unitsOfRank rank) - 52) * binadeSize + _ = rank
    rw [log2_unitsOfRank_of_lt small, unitsOfRank_of_lt small,
      show Nat.pow 2 0 = 1 from rfl, Nat.mul_one, roundHalfEven_mul positive,
      Nat.zero_mul, Nat.zero_add]
  · have steps : 0 < denominator * Nat.pow 2 (rank / binadeSize - 1) :=
      Nat.mul_pos positive (Nat.pow_pos (by decide))
    have binade : 1 ≤ rank / binadeSize :=
      (Nat.one_le_div_iff (by decide)).mpr large
    show (Nat.log2 (unitsOfRank rank) - 52) * binadeSize + _ = rank
    rw [log2_unitsOfRank_of_le large, Nat.add_sub_cancel_left,
      unitsOfRank_of_le large, Nat.mul_right_comm, Nat.mul_assoc,
      roundHalfEven_mul steps]
    unfold binadeSize at binade ⊢
    omega

/-! ## Integers among the doubles -/

theorem unitsPerOne_pos : 0 < unitsPerOne := by
  unfold unitsPerOne
  generalize 1074 = exponent
  exact Nat.pow_pos (by decide)

theorem natAbs_units (number : Number) :
    number.units.natAbs = unitsOfRank number.rank := by
  rw [units]
  split
  · exact Int.natAbs_neg _
  · rfl

theorem units_neg_iff
    {number : Number}
    (unsigned : number.isNegativeZero = false) :
    number.units < 0 ↔ number.negative = true := by
  have nonzero : number.negative = true → number.magnitude ≠ 0 := by
    intro negative vanishes
    rw [magnitude, unitsOfRank_eq_zero_iff] at vanishes
    simp [isNegativeZero, negative, vanishes] at unsigned
  rw [units]
  split
  · next negative =>
      have present := nonzero negative
      constructor
      · intro _
        exact negative
      · intro _
        omega
  · next positive =>
      constructor
      · intro below
        omega
      · intro negative
        exact absurd negative positive

/-- The double nearest to an integral double is that double itself. -/
theorem ofInt_of_integer?
    {number : Number}
    {value : Int}
    (integral : number.integer? = some value)
    (unsigned : number.isNegativeZero = false) :
    ofInt value = number := by
  have exactly := Numeral.units_of_integer?_eq_some integral
  have sameMagnitude :
      value.natAbs * unitsPerOne = unitsOfRank number.rank * 1 := by
    rw [← natAbs_units, exactly, Int.natAbs_mul, Int.natAbs_natCast,
      Nat.mul_one]
  have sameSign : decide (value < 0) = number.negative := by
    rw [Bool.eq_iff_iff, decide_eq_true_iff, ← units_neg_iff unsigned, exactly]
    have unit : (0 : Int) < unitsPerOne := Int.natCast_pos.mpr unitsPerOne_pos
    constructor
    · intro negative
      exact Int.mul_neg_of_neg_of_pos negative unit
    · intro negative
      exact Int.neg_of_mul_neg_left negative unit
  rw [ofInt, nearestRank_of_exact Nat.one_pos sameMagnitude, sameSign, ofRank_rank]

end Number

namespace Numeral

/-- A double in its canonical form is read as itself. -/
@[simp]
theorem number_ofNumber (number : Number) :
    (ofNumber number).number = number := by
  unfold ofNumber
  split
  · rfl
  · next unsigned =>
      split
      · next value integral =>
          split
          · exact Number.ofInt_of_integer? integral (Bool.eq_false_iff.mpr unsigned)
          · rfl
      · rfl

end Numeral

end LeafPatch
