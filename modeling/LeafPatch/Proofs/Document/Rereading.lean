import LeafPatch.Document.Collection
import LeafPatch.Proofs.Document.Leaves
import LeafPatch.Proofs.Document.Reading
import LeafPatch.Proofs.Document.SameValue
import LeafPatch.Proofs.Json.Canonical
import LeafPatch.Proofs.Number.Exact
import Mathlib.Data.List.Basic

/-!
# Documents that are written and read again

A document that is written as JSON keeps its shape when it is read again: arrays
their items in their places, objects their fields in their order, and nulls and
booleans what they are.  Only scalars can come back as others.

Without dates none does.  A string is a string again, and a number has the same
double in its canonical form.  Reading and writing are then inverse to each
other, up to the form in which numbers are written.
-/

namespace LeafPatch.Document

/-! ## Scalars changed in their places -/

mutual

/-- The document with each scalar changed in its place. -/
def mapScalars (change : Scalar → Scalar) : Document → Document
  | scalar value => scalar (change value)
  | unrecognized value => unrecognized value
  | collection kind entries => collection kind (mapScalarsWithin change entries)

/-- The children with each scalar changed in its place. -/
def mapScalarsWithin (change : Scalar → Scalar) :
    List (String × Document) → List (String × Document)
  | [] => []
  | (key, child) :: rest =>
      (key, child.mapScalars change) :: mapScalarsWithin change rest

end

section MapScalars

variable (change : Scalar → Scalar)

theorem mapScalarsWithin_eq_map (entries : List (String × Document)) :
    mapScalarsWithin change entries =
      entries.map fun entry => (entry.1, entry.2.mapScalars change) := by
  induction entries with
  | nil => rfl
  | cons entry rest ih =>
      rcases entry with ⟨key, child⟩
      rw [mapScalarsWithin, ih, List.map_cons]

theorem leaves_mapScalars (document : Document) :
    (document.mapScalars change).leaves =
      document.leaves.map fun leaf => (leaf.1, change leaf.2) := by
  induction document with
  | scalar value => rfl
  | unrecognized value => rfl
  | collection kind entries ih =>
      rw [mapScalars, leaves, leaves, leavesWithin_eq_flatMap,
        leavesWithin_eq_flatMap, mapScalarsWithin_eq_map, List.flatMap_map,
        List.map_flatMap]
      apply List.flatMap_congr
      rintro ⟨key, child⟩ member
      rw [ih key child member, List.map_map, List.map_map]
      rfl

theorem hasUnrecognized_mapScalars (document : Document) :
    (document.mapScalars change).hasUnrecognized = document.hasUnrecognized := by
  induction document with
  | scalar value => rfl
  | unrecognized value => rfl
  | collection kind entries ih =>
      rw [mapScalars, hasUnrecognized, hasUnrecognized]
      induction entries with
      | nil => rfl
      | cons entry rest later =>
          rcases entry with ⟨key, child⟩
          rw [mapScalarsWithin, anyUnrecognized, anyUnrecognized,
            ih key child List.mem_cons_self,
            later fun name other member =>
              ih name other (List.mem_cons_of_mem _ member)]

/-- A document is the same when each of its leaves is. -/
theorem mapScalars_eq_self
    {change : Scalar → Scalar}
    {document : Document}
    (same : ∀ keys value, (keys, value) ∈ document.leaves → change value = value) :
    document.mapScalars change = document := by
  induction document with
  | scalar value =>
      rw [mapScalars, same [] value List.mem_cons_self]
  | unrecognized value => rfl
  | collection kind entries ih =>
      have children : mapScalarsWithin change entries = entries := by
        rw [mapScalarsWithin_eq_map]
        conv => rhs; rw [← List.map_id entries]
        apply List.map_congr_left
        rintro ⟨key, child⟩ member
        have sameChild : child.mapScalars change = child := by
          apply ih key child member
          intro keys value leaf
          exact
            same (key :: keys) value
              (mem_leavesWithin_iff.mpr ⟨key, child, keys, member, leaf, rfl⟩)
        rw [sameChild]
        rfl
      rw [mapScalars, children]

/-- A document has the same value when each of its leaves has, and only then. -/
theorem sameValue_mapScalars_iff
    {document : Document}
    (distinct : document.DistinctKeys) :
    (document.mapScalars change).sameValue document = true ↔
      ∀ keys value, (keys, value) ∈ document.leaves →
        (change value).sameValue value = true := by
  induction document with
  | scalar value =>
      constructor
      · intro same keys inner leaf
        cases List.mem_singleton.mp leaf
        exact same
      · intro all
        exact all [] value List.mem_cons_self
  | unrecognized value =>
      simp [mapScalars, sameValue, leaves]
  | collection kind entries ih =>
      rcases distinctKeys_collection_iff.mp distinct with ⟨nodup, children⟩
      rw [mapScalars, sameValue_collection_iff, entriesFound_iff,
        mapScalarsWithin_eq_map]
      constructor
      · rintro ⟨-, -, found⟩ keys value leaf
        rcases mem_leavesWithin_iff.mp leaf with
          ⟨key, child, rest, member, inner, -⟩
        rcases
            found key (child.mapScalars change)
              (List.mem_map.mpr ⟨(key, child), member, rfl⟩) with
          ⟨other, isOther, same⟩
        rw [(Keyed.find?_eq_some_iff nodup).mpr member] at isOther
        cases isOther
        exact
          (ih key child member (children key child member)).mp same rest value
            inner
      · intro all
        refine ⟨rfl, List.length_map _, ?_⟩
        intro key changed member
        rcases List.mem_map.mp member with ⟨⟨name, child⟩, isEntry, equal⟩
        cases equal
        refine ⟨child, (Keyed.find?_eq_some_iff nodup).mpr isEntry, ?_⟩
        apply (ih name child isEntry (children name child isEntry)).mpr
        intro keys value leaf
        exact
          all (name :: keys) value
            (mem_leavesWithin_iff.mpr ⟨name, child, keys, isEntry, leaf, rfl⟩)

/-- A document with distinct keys has the same value as itself. -/
theorem sameValue_refl
    {document : Document}
    (distinct : document.DistinctKeys) :
    document.sameValue document = true := by
  have unchanged : document.mapScalars id = document := by
    apply mapScalars_eq_self
    intro keys value _
    rfl
  have same := sameValue_mapScalars_iff id distinct
  rw [unchanged] at same
  apply same.mpr
  intro keys value _
  exact value.sameValue_refl

end MapScalars

/-! ## Writing and reading -/

section Classified

variable (detectDates : Bool)

@[simp]
theorem toJson_ofJson_array (items : List Json) :
    (ofJson detectDates (.array items)).toJson =
      .array (items.map fun item => (ofJson detectDates item).toJson) := by
  rw [ofJson, toJson, toJsonItems_eq_map, Keyed.values_indexed,
    ofJsonItems_eq_map, List.map_map]
  rfl

@[simp]
theorem toJson_ofJson_object (fields : List (String × Json)) :
    (ofJson detectDates (.object fields)).toJson =
      .object
        (fields.map fun field =>
          (field.1, (ofJson detectDates field.2).toJson)) := by
  rw [ofJson, toJson, toJsonFields_eq_map, ofJsonFields_eq_map, List.map_map]
  rfl

/-- Each leaf of a classified value comes from a number or a string. -/
theorem forall_leaves_ofJson
    (motive : Scalar → Prop)
    (numbers : ∀ number, motive (.number number))
    (texts : ∀ text, motive (.ofText detectDates text))
    (json : Json) :
    ∀ keys value, (keys, value) ∈ (ofJson detectDates json).leaves →
      motive value := by
  induction json with
  | null =>
      intro keys value leaf
      cases leaf
  | bool value =>
      intro keys value leaf
      cases leaf
  | number number =>
      intro keys value leaf
      cases List.mem_singleton.mp leaf
      exact numbers _
  | text text =>
      intro keys value leaf
      cases List.mem_singleton.mp leaf
      exact texts text
  | array items ih =>
      intro keys value leaf
      rw [ofJson, leaves, ofJsonItems_eq_map] at leaf
      rcases mem_leavesWithin_iff.mp leaf with ⟨key, child, rest, member, inner, -⟩
      rcases List.mem_map.mp (Keyed.mem_of_mem_indexed member) with
        ⟨item, isItem, rfl⟩
      exact ih item isItem rest value inner
  | object fields ih =>
      intro keys value leaf
      rw [ofJson, leaves, ofJsonFields_eq_map] at leaf
      rcases mem_leavesWithin_iff.mp leaf with ⟨key, child, rest, member, inner, -⟩
      rcases List.mem_map.mp member with ⟨⟨name, field⟩, isField, equal⟩
      cases equal
      exact ih name field isField rest value inner

/--
What treats arrays and objects as classification does differs from it only in
the scalars.
-/
theorem eq_mapScalars_ofJson
    {change : Scalar → Scalar}
    (read : Json → Document)
    (null : read .null = unrecognized .null)
    (bool : ∀ value, read (.bool value) = unrecognized (.bool value))
    (number :
      ∀ value, read (.number value) = scalar (change (.number value.number)))
    (text :
      ∀ value,
        read (.text value) = scalar (change (.ofText detectDates value)))
    (array :
      ∀ items,
        read (.array items) =
          collection .sequence (Keyed.indexed 0 (items.map read)))
    (object :
      ∀ fields,
        read (.object fields) =
          collection .mapping (fields.map fun field => (field.1, read field.2)))
    (json : Json) :
    read json = (ofJson detectDates json).mapScalars change := by
  induction json with
  | null => exact null
  | bool value => exact bool value
  | number value => exact number value
  | text value => exact text value
  | array items ih =>
      rw [array, ofJson, mapScalars, mapScalarsWithin_eq_map,
        Keyed.map_indexed, ofJsonItems_eq_map, List.map_map]
      congr 2
      apply List.map_congr_left
      intro item member
      exact ih item member
  | object fields ih =>
      rw [object, ofJson, mapScalars, mapScalarsWithin_eq_map,
        ofJsonFields_eq_map, List.map_map]
      congr 1
      apply List.map_congr_left
      rintro ⟨key, value⟩ member
      exact congrArg (Prod.mk key) (ih key value member)

/--
A classified value that is written and classified again has every scalar changed
as writing and reading changes it, and is otherwise the same.
-/
theorem ofJson_toJson_ofJson
    {change : Scalar → Scalar}
    (numbers : ∀ number, change (.number number) = .number number)
    (texts :
      ∀ text,
        ofJson detectDates (Scalar.ofText detectDates text).toJson =
          scalar (change (Scalar.ofText detectDates text)))
    (json : Json) :
    ofJson detectDates (ofJson detectDates json).toJson =
      (ofJson detectDates json).mapScalars change := by
  apply
    eq_mapScalars_ofJson detectDates
      fun json => ofJson detectDates (ofJson detectDates json).toJson
  · rfl
  · intro value
    rfl
  · intro value
    rw [numbers, ofJson, toJson, Scalar.toJson, ofJson,
      Numeral.number_ofNumber]
  · exact texts
  · intro items
    rw [toJson_ofJson_array, ofJson, ofJsonItems_eq_map, List.map_map]
    rfl
  · intro fields
    rw [toJson_ofJson_object, ofJson, ofJsonFields_eq_map, List.map_map]
    rfl

end Classified

/-! ## Without dates -/

/-- A value that is classified without dates is written in its one canonical form. -/
theorem isCanonicalOf_iff_eq_toJson
    (json written : Json) :
    written.IsCanonicalOf json ↔ written = (ofJson false json).toJson := by
  induction json generalizing written with
  | null =>
      cases written <;> simp [Json.IsCanonicalOf, ofJson, toJson]
  | bool value =>
      cases written <;> simp [Json.IsCanonicalOf, ofJson, toJson]
  | number value =>
      cases written <;>
        simp [Json.IsCanonicalOf, ofJson, toJson, Scalar.toJson,
          Numeral.isCanonicalOf_iff]
  | text value =>
      cases written <;>
        simp [Json.IsCanonicalOf, ofJson, toJson, Scalar.ofText, Scalar.toJson]
  | array items ih =>
      rw [toJson_ofJson_array]
      cases written with
      | array others =>
          rw [Json.IsCanonicalOf, Json.itemsCanonicalOf_iff ih, Json.array.injEq]
      | _ => simp [Json.IsCanonicalOf]
  | object fields ih =>
      rw [toJson_ofJson_object]
      cases written with
      | object others =>
          rw [Json.IsCanonicalOf, Json.fieldsCanonicalOf_iff ih,
            Json.object.injEq]
      | _ => simp [Json.IsCanonicalOf]

/-- Without dates every scalar comes back, and with the scalars the document. -/
theorem ofJson_toJson_ofJson_eq_self (json : Json) :
    ofJson false (ofJson false json).toJson = ofJson false json := by
  have unchanged :
      ofJson false (ofJson false json).toJson =
        (ofJson false json).mapScalars id := by
    apply ofJson_toJson_ofJson
    · intro number
      rfl
    · intro text
      rfl
  rw [unchanged]
  apply mapScalars_eq_self
  intro keys value _
  rfl

/--
Without dates a value is classified and written without loss.  What is written
is classified as the same document, and it is the one value that has canonical
numbers after the value itself, which stand for the same doubles; writing it once
more changes nothing.  No item of an array and no field of an object is lost, since
indices never collide and an object has distinct keys.
-/
theorem ofJson_inverse_toJson (json : Json) :
    let document := ofJson false json
    (ofJson false document.toJson = document
        ∧ (∀ written : Json,
            written.IsCanonicalOf json ↔ written = document.toJson)
        ∧ (ofJson false document.toJson).toJson = document.toJson)
      ∧ (∀ numeral : Numeral,
          (Numeral.ofNumber numeral.number).number = numeral.number)
      ∧ (∀ items : List Json,
          let sequence := Collection.sequence (items.map (ofJson false))
          ofJson false (.array items) = sequence.toDocument
            ∧ sequence.keys = (List.range items.length).map toString
            ∧ sequence.keys.Nodup
            ∧ Keyed.ofPairs sequence.entries = sequence.entries
            ∧ ∀ index : Nat,
                sequence.find? (toString index) =
                  items[index]?.map (ofJson false))
      ∧ ∀ fields : List (String × Json),
          (Keyed.keys fields).Nodup →
            ofJson false (.object fields) =
              (Collection.ofPairs
                (fields.map fun field =>
                  (field.1, ofJson false field.2))).toDocument := by
  intro document
  have inverse : ofJson false document.toJson = document :=
    ofJson_toJson_ofJson_eq_self json
  refine ⟨⟨inverse, isCanonicalOf_iff_eq_toJson json, ?_⟩, ?_, ?_, ?_⟩
  · rw [inverse]
  · intro numeral
    exact Numeral.number_ofNumber numeral.number
  · intro items sequence
    have distinct : (Keyed.keys sequence.entries).Nodup :=
      Keyed.nodup_keys_indexed 0 _
    refine ⟨?_, ?_, distinct, Keyed.ofPairs_of_nodup distinct, ?_⟩
    · rw [ofJson, ofJsonItems_eq_map]
      rfl
    · show Keyed.keys (Keyed.indexed 0 (items.map (ofJson false))) = _
      rw [Keyed.keys_indexed, List.length_map, List.range_eq_range']
    · intro index
      have found := Keyed.find?_indexed 0 index (items.map (ofJson false))
      rw [Nat.zero_add, List.getElem?_map] at found
      exact found
  · intro fields distinct
    have distinctEntries : (Keyed.keys (ofJsonFields false fields)).Nodup := by
      rw [keys_ofJsonFields]
      exact distinct
    rw [Collection.ofPairs, ← ofJsonFields_eq_map,
      Keyed.ofPairs_of_nodup distinctEntries]
    rfl

/--
A whole double is written as the integer that it is.  An integer at the upper end
of 64 bits is rounded to the next power of two, which is no integer of 64 bits,
and negative zero keeps its sign.
-/
theorem ofJson_inverse_toJson_wideInteger :
    let fields : List (String × Json) :=
      [("one", .number (.integer 1 (by decide))),
        ("whole", .number (.float (Number.ofRank false 4607182418800017408))),
        ("wide", .number (.integer 18446744073709551615 (by decide))),
        ("list",
          .array
            [.number (.integer (-1) (by decide)),
              .number (.float (Number.signedZero true)),
              .text "2016-10-01T12:00:00Z", .null])]
    let document := ofJson false (.object fields)
    (Keyed.keys fields).Nodup
      ∧ ofJson false document.toJson = document
      ∧ document.toJson =
          .object
            [("one", .number (.integer 1 (by decide))),
              ("whole", .number (.integer 1 (by decide))),
              ("wide", .number (.float (Number.ofRank false 4895412794951729152))),
              ("list",
                .array
                  [.number (.integer (-1) (by decide)),
                    .number (.float (Number.signedZero true)),
                    .text "2016-10-01T12:00:00Z", .null])]
      ∧ document =
          (Collection.ofPairs
            (fields.map fun field =>
              (field.1, ofJson false field.2))).toDocument := by
  intro fields document
  have distinct : (Keyed.keys fields).Nodup := by
    simp [fields, Keyed.keys]
  rcases ofJson_inverse_toJson (.object fields) with
    ⟨⟨inverse, canonical, -⟩, -, -, objects⟩
  have one :
      (Numeral.integer 1 (by decide)).IsCanonicalOf (Number.ofInt 1) :=
    Numeral.isCanonicalOf_iff.mpr (by decide +kernel)
  have whole :
      (Numeral.integer 1 (by decide)).IsCanonicalOf
        (Number.ofRank false 4607182418800017408) :=
    Numeral.isCanonicalOf_iff.mpr (by decide +kernel)
  have wide :
      (Numeral.float (Number.ofRank false 4895412794951729152)).IsCanonicalOf
        (Number.ofInt 18446744073709551615) :=
    Numeral.isCanonicalOf_iff.mpr (by decide +kernel)
  have minusOne :
      (Numeral.integer (-1) (by decide)).IsCanonicalOf (Number.ofInt (-1)) :=
    Numeral.isCanonicalOf_iff.mpr (by decide +kernel)
  have negativeZero :
      (Numeral.float (Number.signedZero true)).IsCanonicalOf
        (Number.signedZero true) :=
    .float (Or.inl rfl)
  refine ⟨distinct, inverse, ((canonical _).mp ?_).symm, objects fields distinct⟩
  exact
    ⟨rfl, one, rfl, whole, rfl, wide, rfl,
      ⟨minusOne, negativeZero, rfl, trivial, trivial⟩, trivial⟩

end LeafPatch.Document
