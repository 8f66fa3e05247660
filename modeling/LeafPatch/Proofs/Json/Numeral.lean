import LeafPatch.Json.Token
import Mathlib.Data.List.TakeWhile

/-!
# Numbers that are read again

An integer of at most 64 bits is read as it is written: its digits have no
superfluous zero in front, and all of them fit in a significand.  A double is
read in two roundings and need not come back; those that do are legible.

The written form of a number is a run of characters of a word, whatever the
number.
-/

namespace LeafPatch

namespace Json.Token

/-- All characters can be part of a literal or a number. -/
def Wordlike (text : List Char) : Prop :=
  ∀ character ∈ text, isWordChar character = true

instance (text : List Char) : Decidable (Wordlike text) :=
  List.decidableBAll _ text

@[simp]
theorem wordlike_nil : Wordlike [] := by
  intro character member
  cases member

@[simp]
theorem wordlike_cons_iff
    {character : Char}
    {text : List Char} :
    Wordlike (character :: text) ↔
      isWordChar character = true ∧ Wordlike text :=
  List.forall_mem_cons

@[simp]
theorem wordlike_append_iff
    {text others : List Char} :
    Wordlike (text ++ others) ↔ Wordlike text ∧ Wordlike others :=
  List.forall_mem_append

@[simp]
theorem wordlike_toDigits (value : Nat) :
    Wordlike (Nat.toDigits 10 value) := by
  intro digit written
  have isDigit : digit.isDigit = true :=
    Nat.isDigit_of_mem_toDigits (by decide) (by decide) written
  simp [isWordChar, Char.isAlphanum, isDigit]

@[simp]
theorem wordlike_zeros (count : Nat) :
    Wordlike (List.replicate count '0') := by
  intro digit written
  rw [List.eq_of_mem_replicate written]
  rfl

end Json.Token

namespace Numeral

open Json (Token)

/-- What is read is what has been written. -/
def Legible (value : Numeral) : Prop :=
  ofChars? value.write = some value

/-! ## Integers -/

theorem head?_toDigits_ne_zero {value : Nat} (positive : 0 < value) :
    (Nat.toDigits 10 value).head? ≠ some '0' := by
  induction value using Nat.strongRecOn with
  | ind value ih =>
      rw [Nat.toDigits_eq_if (by decide)]
      split
      · simp
        omega
      · rw [List.head?_append, List.head?_eq_some_head Nat.toDigits_ne_nil,
          Option.some_or, ← List.head?_eq_some_head]
        exact ih (value / 10) (by omega) (by omega)

/-- Digits of a number that fits are accumulated to their end. -/
theorem accumulate_digitValues
    (significand : Nat)
    (digits : List Char)
    (small : Nat.ofDigitChars 10 digits significand < 18446744073709551616) :
    accumulate significand (digitValues digits) =
      (Nat.ofDigitChars 10 digits significand, []) := by
  induction digits generalizing significand with
  | nil => rfl
  | cons digit rest ih =>
      have grows (start : Nat) : start ≤ Nat.ofDigitChars 10 rest start := by
        rw [Nat.ofDigitChars_eq_ofDigitChars_zero]
        exact
          Nat.le_add_right_of_le
            (Nat.le_mul_of_pos_left start (Nat.pow_pos (by decide)))
      rw [Nat.ofDigitChars_cons] at small ⊢
      have room := Nat.lt_of_le_of_lt (grows _) small
      rw [Nat.mul_comm 10 significand] at small room ⊢
      rw [digitValues, List.map_cons, accumulate, ← digitValues,
        if_pos (by simpa [fits] using room), ih _ small]

/-- Decimal digits, with a sign before them or not, are read as what they spell. -/
theorem ofChars?_toDigits
    (negative : Bool)
    {magnitude : Nat}
    (small : magnitude < 18446744073709551616) :
    ofChars?
        (if negative then '-' :: Nat.toDigits 10 magnitude
          else Nat.toDigits 10 magnitude) =
      some (ofInteger negative magnitude) := by
  have digits :
      ∀ digit ∈ Nat.toDigits 10 magnitude, digit.isDigit = true :=
    fun digit => Nat.isDigit_of_mem_toDigits (by decide) (by decide)
  unfold ofChars?
  split
  next sign text cut =>
    have parts : sign = negative ∧ text = Nat.toDigits 10 magnitude := by
      cases negative with
      | true =>
          cases cut
          exact ⟨rfl, rfl⟩
      | false =>
          rw [if_neg Bool.false_ne_true] at cut
          split at cut
          · next rest written =>
              rw [written] at digits
              exact absurd (digits '-' List.mem_cons_self) (by decide)
          · cases cut
            exact ⟨rfl, rfl⟩
    rcases parts with ⟨rfl, rfl⟩
    rw [List.takeWhile_eq_self_iff.mpr digits,
      List.dropWhile_eq_nil_iff.mpr digits]
    dsimp only
    rw [accumulate_digitValues _ _ (by rwa [Nat.ofDigitChars_ten_toDigits]),
      Nat.ofDigitChars_ten_toDigits]
    have wellFormed :
        (!(Nat.toDigits 10 magnitude).isEmpty
          && ((Nat.toDigits 10 magnitude).length == 1
            || (Nat.toDigits 10 magnitude).head? != some '0')) = true := by
      rcases Nat.eq_zero_or_pos magnitude with rfl | positive
      · rfl
      · simp [head?_toDigits_ne_zero positive, Nat.toDigits_ne_nil]
    rw [wellFormed]
    rfl

theorem write_ofNat
    {magnitude : Nat}
    (fits : FitsWord (.ofNat magnitude)) :
    (integer (.ofNat magnitude) fits).write = Nat.toDigits 10 magnitude :=
  Nat.toList_repr

theorem write_negSucc
    {predecessor : Nat}
    (fits : FitsWord (.negSucc predecessor)) :
    (integer (.negSucc predecessor) fits).write =
      '-' :: Nat.toDigits 10 (predecessor + 1) := by
  show ("-" ++ Nat.repr (predecessor + 1)).toList = _
  rw [String.toList_append, Nat.toList_repr]
  rfl

theorem legible_integer
    {value : Int}
    (fits : FitsWord value) :
    (integer value fits).Legible := by
  rw [Legible]
  cases value with
  | ofNat magnitude =>
      have upper : (magnitude : Int) < 18446744073709551616 := fits.2
      have read := ofChars?_toDigits false (Int.ofNat_lt.mp upper)
      rw [if_neg Bool.false_ne_true] at read
      rw [write_ofNat, read, ofInteger, if_neg (by simp)]
      exact congrArg some (dif_pos fits)
  | negSucc predecessor =>
      have lower := fits.1
      have small : predecessor + 1 < 18446744073709551616 := by
        omega
      have read := ofChars?_toDigits true small
      rw [if_pos rfl] at read
      rw [write_negSucc, read, ofInteger, if_neg (by simp)]
      exact congrArg some (dif_pos fits)

/-! ## Characters -/

theorem wordlike_positional (decimal : Decimal) :
    Token.Wordlike (FloatLayout.positional decimal) := by
  have digits : Token.Wordlike decimal.digits := Token.wordlike_toDigits _
  unfold FloatLayout.positional
  split
  · simpa using ⟨rfl, rfl, digits⟩
  · split
    · simpa using ⟨digits, rfl, rfl⟩
    · simp only [Token.wordlike_append_iff, Token.wordlike_cons_iff]
      exact
        ⟨fun digit taken => digits digit (List.mem_of_mem_take taken), rfl,
          fun digit dropped => digits digit (List.mem_of_mem_drop dropped)⟩

theorem wordlike_scientific
    (layout : FloatLayout)
    (decimal : Decimal) :
    Token.Wordlike (layout.scientific decimal) := by
  have digits : Token.Wordlike decimal.digits := Token.wordlike_toDigits _
  have sign :
      Token.Wordlike
        (if decimal.exponent < 0 then ['-']
          else if layout.exponentPlus then ['+']
          else []) := by
    split
    · exact Token.wordlike_cons_iff.mpr ⟨rfl, Token.wordlike_nil⟩
    · split
      · exact Token.wordlike_cons_iff.mpr ⟨rfl, Token.wordlike_nil⟩
      · exact Token.wordlike_nil
  unfold FloatLayout.scientific
  simp only [Token.wordlike_append_iff, Token.wordlike_cons_iff]
  refine ⟨⟨?_, rfl, sign⟩, Token.wordlike_toDigits _⟩
  split
  · next first second others written =>
      rw [written] at digits
      simp only [Token.wordlike_cons_iff] at digits ⊢
      exact ⟨digits.1, rfl, digits.2⟩
  · exact digits

/-- The written form of a number is made of characters of a word. -/
theorem wordlike_write (value : Numeral) : Token.Wordlike value.write := by
  cases value with
  | integer value fits =>
      cases value with
      | ofNat magnitude =>
          rw [write_ofNat]
          exact Token.wordlike_toDigits magnitude
      | negSucc predecessor =>
          rw [write_negSucc, Token.wordlike_cons_iff]
          exact ⟨rfl, Token.wordlike_toDigits _⟩
  | float number =>
      have unsigned (layout : FloatLayout) (decimal : Decimal) (choice : Bool) :
          Token.Wordlike
            (if choice then FloatLayout.positional decimal
              else layout.scientific decimal) := by
        split
        · exact wordlike_positional decimal
        · exact wordlike_scientific layout decimal
      rw [write, FloatLayout.write]
      split
      · exact Token.wordlike_cons_iff.mpr ⟨rfl, unsigned _ _ _⟩
      · exact unsigned _ _ _

theorem Legible.write_ne_nil
    {value : Numeral}
    (legible : value.Legible) :
    value.write ≠ [] := by
  intro empty
  rw [Legible, empty] at legible
  cases legible

end Numeral

end LeafPatch
