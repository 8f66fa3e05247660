import LeafPatch.Json.Basic
import LeafPatch.Proofs.Number.Word

/-!
# JSON with canonical numbers

A JSON value has canonical numbers after another if each number is in the
canonical form of its double and all else is the same: the same items in the same
places, and the same fields in the same order.  What that form is does not depend
on how numbers are written.

What is to hold of all JSON values is proved by induction over them, from the
items of an array and from the values of an object.
-/

namespace LeafPatch.Json

/--
What holds of an array whenever it holds of its items, and of an object whenever
it holds of the values of its fields, holds of all JSON values.
-/
@[elab_as_elim, induction_eliminator]
theorem induction
    {motive : Json → Prop}
    (null : motive null)
    (bool : ∀ value, motive (bool value))
    (number : ∀ value, motive (number value))
    (text : ∀ value, motive (text value))
    (array : ∀ items, (∀ item ∈ items, motive item) → motive (array items))
    (object :
      ∀ fields,
        (∀ key value, (key, value) ∈ fields → motive value) →
          motive (object fields)) :
    ∀ json, motive json
  | .null => null
  | .bool value => bool value
  | .number value => number value
  | .text value => text value
  | .array items =>
      array items fun item member =>
        have := List.sizeOf_lt_of_mem member
        induction null bool number text array object item
  | .object fields =>
      object fields fun _ value member =>
        have := List.sizeOf_lt_of_mem member
        induction null bool number text array object value
termination_by json => sizeOf json
decreasing_by
  · simp only [Json.array.sizeOf_spec]
    omega
  · simp only [Json.object.sizeOf_spec, Prod.mk.sizeOf_spec] at *
    omega

mutual

/-- The value is another one with its numbers in their canonical forms. -/
def IsCanonicalOf : Json → Json → Prop
  | null, null => True
  | bool value, bool other => value = other
  | number numeral, number other => numeral.IsCanonicalOf other.number
  | text value, text other => value = other
  | array items, array others => ItemsCanonicalOf items others
  | object fields, object others => FieldsCanonicalOf fields others
  | _, _ => False

/-- The items are others with their numbers in their canonical forms, one by one. -/
def ItemsCanonicalOf : List Json → List Json → Prop
  | [], [] => True
  | item :: rest, other :: others =>
      IsCanonicalOf item other ∧ ItemsCanonicalOf rest others
  | _, _ => False

/-- The fields have the same keys, and values with canonical numbers, one by one. -/
def FieldsCanonicalOf :
    List (String × Json) → List (String × Json) → Prop
  | [], [] => True
  | (key, value) :: rest, (name, other) :: others =>
      key = name ∧ IsCanonicalOf value other ∧ FieldsCanonicalOf rest others
  | _, _ => False

end

section Form

variable {form : Json → Json}

/-- Where each item has one canonical form, so has the list of them. -/
theorem itemsCanonicalOf_iff
    {items : List Json}
    (isForm :
      ∀ item ∈ items, ∀ written,
        written.IsCanonicalOf item ↔ written = form item)
    (written : List Json) :
    ItemsCanonicalOf written items ↔ written = items.map form := by
  induction items generalizing written with
  | nil => cases written <;> simp [ItemsCanonicalOf]
  | cons item rest ih =>
      rw [List.forall_mem_cons] at isForm
      cases written with
      | nil => simp [ItemsCanonicalOf]
      | cons first others =>
          rw [ItemsCanonicalOf, isForm.1, ih isForm.2, List.map_cons,
            List.cons.injEq]

/-- Where the value of each field has one canonical form, so has the list of fields. -/
theorem fieldsCanonicalOf_iff
    {fields : List (String × Json)}
    (isForm :
      ∀ key value, (key, value) ∈ fields → ∀ written,
        written.IsCanonicalOf value ↔ written = form value)
    (written : List (String × Json)) :
    FieldsCanonicalOf written fields ↔
      written = fields.map fun field => (field.1, form field.2) := by
  induction fields generalizing written with
  | nil => cases written <;> simp [FieldsCanonicalOf]
  | cons field rest ih =>
      rcases field with ⟨key, value⟩
      cases written with
      | nil => simp [FieldsCanonicalOf]
      | cons first others =>
          rcases first with ⟨name, other⟩
          have later :=
            ih
              (fun key value member =>
                isForm key value (List.mem_cons_of_mem _ member))
              others
          rw [FieldsCanonicalOf, isForm key value List.mem_cons_self, later,
            List.map_cons, List.cons.injEq, Prod.mk.injEq, and_assoc]

end Form

end LeafPatch.Json
