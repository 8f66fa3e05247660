import LeafPatch.Json.Basic
import LeafPatch.Proofs.Keyed

/-!
# Equality of JSON values by value

Two JSON values are the same when they differ at most in the order of the fields
of objects and in how numbers are written: an integer and a double are the same
number if they are equal as numbers.  Numbers are compared exactly, in the units
of which every finite double is a multiple.

Writing a double in its canonical form, perhaps as an integer, keeps its value.
-/

namespace LeafPatch

namespace Numeral

/-- The exact value of a number, in units. -/
def units : Numeral → Int
  | integer value _ => value * unitsPerOne
  | float number => number.units

/-- An integral double has the value of its integer. -/
theorem units_of_integer?_eq_some
    {number : Number}
    {value : Int}
    (integral : number.integer? = some value) :
    number.units = value * unitsPerOne := by
  rw [Number.integer?] at integral
  split at integral
  · next divides =>
      have whole :
          number.magnitude =
            number.magnitude / unitsPerOne * unitsPerOne := by
        rw [Nat.div_mul_cancel (Nat.dvd_of_mod_eq_zero divides)]
      have magnitude :
          (number.magnitude : Int) =
            (number.magnitude / unitsPerOne : Nat) * (unitsPerOne : Int) := by
        rw [← Int.natCast_mul, ← whole]
      cases integral
      rw [Number.units, magnitude]
      split
      · rw [Int.neg_mul]
      · rfl
  · cases integral

theorem units_ofNumber (number : Number) :
    (ofNumber number).units = number.units := by
  unfold ofNumber
  split
  · rfl
  · split
    · next value integral =>
        split
        · exact (units_of_integer?_eq_some integral).symm
        · rfl
    · rfl

end Numeral

namespace Json

mutual

/-- Equality by value. -/
def sameValue : Json → Json → Bool
  | null, null => true
  | bool left, bool right => left == right
  | number left, number right => left.units == right.units
  | text left, text right => left == right
  | array items, array others => sameItems items others
  | object fields, object others =>
      fields.length == others.length && fieldsFound fields others
  | _, _ => false

/-- Whether items are the same one by one. -/
def sameItems : List Json → List Json → Bool
  | [], [] => true
  | item :: rest, other :: others =>
      sameValue item other && sameItems rest others
  | _, _ => false

/-- Whether every field has a field of the same key and value among others. -/
def fieldsFound : List (String × Json) → List (String × Json) → Bool
  | [], _ => true
  | (key, value) :: rest, others =>
      (match Keyed.find? key others with
        | some other => sameValue value other
        | none => false)
        && fieldsFound rest others

end

theorem fieldsFound_iff
    {fields others : List (String × Json)} :
    fieldsFound fields others = true ↔
      ∀ key value, (key, value) ∈ fields →
        ∃ other, Keyed.find? key others = some other
          ∧ value.sameValue other = true := by
  induction fields with
  | nil => simp [fieldsFound]
  | cons field rest ih =>
      rcases field with ⟨name, first⟩
      have head :
          (match Keyed.find? name others with
            | some other => first.sameValue other
            | none => false) = true ↔
            ∃ other, Keyed.find? name others = some other
              ∧ first.sameValue other = true := by
        cases Keyed.find? name others <;> simp
      rw [fieldsFound, Bool.and_eq_true, ih, head]
      constructor
      · rintro ⟨isFound, later⟩ key value member
        rcases List.mem_cons.mp member with equal | member
        · cases equal
          exact isFound
        · exact later key value member
      · intro all
        exact
          ⟨all name first List.mem_cons_self,
            fun key value member =>
              all key value (List.mem_cons_of_mem _ member)⟩

/--
Under the same keys in the same order, fields that are found are the same one by
one.
-/
theorem sameItems_of_fieldsFound
    {fields others : List (String × Json)}
    (sameKeys : Keyed.keys others = Keyed.keys fields)
    (distinct : (Keyed.keys fields).Nodup)
    (found : fieldsFound fields others = true) :
    sameItems (fields.map Prod.snd) (others.map Prod.snd) = true := by
  rw [fieldsFound_iff] at found
  induction fields generalizing others with
  | nil =>
      cases others with
      | nil => rfl
      | cons other rest => cases sameKeys
  | cons field rest ih =>
      cases others with
      | nil => cases sameKeys
      | cons other later =>
          rcases field with ⟨key, value⟩
          rcases other with ⟨name, otherValue⟩
          rcases List.cons.inj sameKeys with ⟨rfl, sameLater⟩
          rcases List.nodup_cons.mp distinct with ⟨fresh, laterDistinct⟩
          rcases found name value List.mem_cons_self with ⟨first, isFirst, same⟩
          rw [Keyed.find?_cons_self] at isFirst
          cases isFirst
          have laterFound :
              ∀ key value, (key, value) ∈ rest →
                ∃ other, Keyed.find? key later = some other
                  ∧ value.sameValue other = true := by
            intro key value member
            have different : name ≠ key := by
              rintro rfl
              exact fresh (Keyed.mem_keys_of_mem member)
            rcases found key value (List.mem_cons_of_mem _ member) with
              ⟨inner, isInner, sameInner⟩
            rw [Keyed.find?_cons_of_ne otherValue later different] at isInner
            exact ⟨inner, isInner, sameInner⟩
          simp only [List.map_cons, sameItems, same,
            ih sameLater laterDistinct laterFound, Bool.and_self]

end Json

end LeafPatch
