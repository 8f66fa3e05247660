/-!
# Widths of integers

Documents hold integers of at most 64 bits.  The sign takes no bit away from the
nonnegative ones, so an integer fits if it does as a signed or as an unsigned
word.
-/

namespace LeafPatch

/-- The integer is a signed or an unsigned word of 64 bits. -/
def FitsWord (value : Int) : Prop :=
  -9223372036854775808 ≤ value ∧ value < 18446744073709551616

/-- The integer is a signed or an unsigned word of 128 bits. -/
def FitsDoubleWord (value : Int) : Prop :=
  -170141183460469231731687303715884105728 ≤ value
    ∧ value < 340282366920938463463374607431768211456

instance (value : Int) : Decidable (FitsWord value) :=
  inferInstanceAs (Decidable (_ ∧ _))

instance (value : Int) : Decidable (FitsDoubleWord value) :=
  inferInstanceAs (Decidable (_ ∧ _))

/-- A natural number below 2 to the 64th fits. -/
theorem fitsWord_natCast {value : Nat} (bound : value < 18446744073709551616) :
    FitsWord value := by
  unfold FitsWord
  omega

end LeafPatch
