import LeafPatch.Proofs.Document.Rereading
import LeafPatch.Proofs.Document.Yaml

/-!
# Documents that JSON gives back

The JSON form of a document says everything about it but two things: whether a
string is a date, and under which keys the items of an array stand.  A document
without dates whose arrays count from zero is given back by its JSON form.  Every
document that was read without detecting dates is like this.
-/

namespace LeafPatch

namespace Keyed

variable {Value : Type}

/-- Entries are known by their keys and their values. -/
theorem eq_of_keys_of_values
    {entries others : List (String × Value)}
    (sameKeys : keys entries = keys others)
    (sameValues : entries.map Prod.snd = others.map Prod.snd) :
    entries = others := by
  have whole (list : List (String × Value)) :
      list = (keys list).zip (list.map Prod.snd) :=
    List.zip_of_prod rfl rfl
  calc
    entries = (keys entries).zip (entries.map Prod.snd) := whole entries
    _ = (keys others).zip (others.map Prod.snd) := by rw [sameKeys, sameValues]
    _ = others := (whole others).symm

/-- Values that stand under their indices are indexed. -/
theorem indexed_values
    {entries : List (String × Value)}
    (counted : keys entries = (List.range entries.length).map toString) :
    indexed 0 (entries.map Prod.snd) = entries := by
  apply eq_of_keys_of_values
  · rw [keys_indexed, List.length_map, ← List.range_eq_range', counted]
  · exact values_indexed 0 _

end Keyed

namespace Document

/-- No leaf is a date. -/
def Dateless (document : Document) : Prop :=
  ∀ keys timestamp, (keys, .date timestamp) ∉ document.leaves

theorem dateless_scalar_iff
    {value : Scalar} :
    (scalar value).Dateless ↔ ∀ timestamp, value ≠ .date timestamp := by
  constructor
  · rintro dateless timestamp rfl
    exact dateless [] timestamp List.mem_cons_self
  · intro noDate keys timestamp leaf
    exact
      noDate timestamp (congrArg Prod.snd (List.mem_singleton.mp leaf)).symm

/-- Without detecting dates nothing is read as a date. -/
theorem dateless_ofJson (json : Json) : (ofJson false json).Dateless := by
  intro keys timestamp leaf
  have noDate :=
    forall_leaves_ofJson false (fun value => value ≠ .date timestamp)
      (fun number isDate => by cases isDate)
      (fun text isDate => by cases isDate) json
  exact noDate keys _ leaf rfl

theorem Dateless.descend
    {kind : CollectionKind}
    {entries : List (String × Document)}
    (dateless : (collection kind entries).Dateless)
    {key : String}
    {child : Document}
    (member : (key, child) ∈ entries) :
    child.Dateless := by
  intro keys timestamp leaf
  exact
    dateless (key :: keys) timestamp
      (mem_leavesWithin_iff.mpr ⟨key, child, keys, member, leaf, rfl⟩)

/-- The JSON form of the document says all about it. -/
structure Restorable (document : Document) : Prop where
  distinct : document.DistinctKeys
  indexed : document.Indexed
  dateless : document.Dateless

theorem Restorable.descend
    {kind : CollectionKind}
    {entries : List (String × Document)}
    (restorable : (collection kind entries).Restorable)
    {key : String}
    {child : Document}
    (member : (key, child) ∈ entries) :
    child.Restorable := by
  have isChild := restorable.distinct.find?_eq_some member
  exact
    ⟨restorable.distinct.descend isChild, restorable.indexed.descend isChild,
      restorable.dateless.descend member⟩

/-- What is written is read as the same document. -/
theorem Restorable.ofJson_toJson
    {document : Document}
    (restorable : document.Restorable) :
    ofJson false document.toJson = document := by
  induction document with
  | scalar value =>
      cases value with
      | number value =>
          rw [toJson, Scalar.toJson, ofJson, Numeral.number_ofNumber]
      | text value => rfl
      | date value =>
          exact absurd List.mem_cons_self (restorable.dateless [] value)
  | unrecognized value => cases value <;> rfl
  | collection kind entries ih =>
      have children :
          (entries.map Prod.snd).map (fun child => ofJson false child.toJson) =
            entries.map Prod.snd := by
        rw [List.map_map]
        apply List.map_congr_left
        rintro ⟨key, child⟩ member
        exact ih key child member (restorable.descend member)
      cases kind with
      | sequence =>
          rw [toJson, ofJson, ofJsonItems_eq_map, toJsonItems_eq_map,
            List.map_map]
          show collection .sequence (Keyed.indexed 0 (List.map _ _)) = _
          rw [Function.comp_def, children,
            Keyed.indexed_values (restorable.indexed [] entries rfl)]
      | mapping =>
          rw [toJson, ofJson, ofJsonFields_eq_map, toJsonFields_eq_map,
            List.map_map]
          congr 1
          apply Keyed.eq_of_keys_of_values
          · rw [Keyed.keys, List.map_map]
            rfl
          · rw [List.map_map, ← children, List.map_map]
            rfl

theorem restorable_scalar
    {value : Scalar}
    (noDate : ∀ timestamp, value ≠ .date timestamp) :
    (scalar value).Restorable := by
  refine ⟨trivial, ?_, dateless_scalar_iff.mpr noDate⟩
  intro keys entries found
  cases keys with
  | nil => cases found
  | cons key rest => cases found

/-! ## Documents that were read without dates -/

/-- The document of a JSON or YAML value, without detecting dates. -/
inductive ReadWithoutDates : Document → Prop where
  | json (json : Json) : ReadWithoutDates (ofJson false json)
  | yaml
      {yaml : Yaml}
      {document : Document}
      (distinct : yaml.DistinctKeys)
      (classified : ofYaml false yaml = .ok document) :
      ReadWithoutDates document

theorem ReadWithoutDates.exists_ofJson
    {document : Document}
    (isRead : document.ReadWithoutDates) :
    ∃ json, document = ofJson false json := by
  cases isRead with
  | json json => exact ⟨json, rfl⟩
  | yaml distinct classified =>
      exact exists_ofJson_of_ofYaml false distinct classified

theorem ReadWithoutDates.ne_date
    {document : Document}
    (isRead : document.ReadWithoutDates)
    {keys : List String}
    {value : Scalar}
    (found : document.scalarAt? keys = some value)
    (timestamp : Timestamp) :
    value ≠ .date timestamp := by
  rintro rfl
  rcases isRead.exists_ofJson with ⟨json, rfl⟩
  rw [scalarAt?_eq_some_iff] at found
  rcases exists_ofJson_of_follow? found with ⟨inner, equal⟩
  cases inner with
  | text text => cases equal
  | _ => cases equal

theorem ReadWithoutDates.restorable
    {document : Document}
    (isRead : document.ReadWithoutDates)
    (distinct : document.DistinctKeys) :
    document.Restorable := by
  rcases isRead.exists_ofJson with ⟨json, rfl⟩
  exact ⟨distinct, indexed_ofJson false json, dateless_ofJson json⟩

end Document

end LeafPatch
