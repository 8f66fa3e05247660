import LeafPatch.Document.Error
import LeafPatch.Json.Basic
import LeafPatch.Proofs.Keyed

/-!
# Parts of YAML values

The parts of a value are the value itself and whatever stands in it, in the order
of the document: a key of a mapping comes before its value, and both come before
the pairs that follow.  A part offends if no JSON value can have it: a key that
is no string, a value with a tag, a number that is not finite.

A value without any such part has the shape of a JSON value.  The two are the
same tree if they have the same items in the same places, the same keys in the
same order, the same strings and the same doubles.
-/

namespace LeafPatch.Yaml

/--
What holds of a sequence whenever it holds of its items, of a mapping whenever it
holds of the values in it, and of a value with a tag whenever it holds of its
content, holds of all values.
-/
@[elab_as_elim, induction_eliminator]
theorem induction
    {motive : Yaml → Prop}
    (null : motive null)
    (bool : ∀ value, motive (bool value))
    (integer : ∀ value, motive (integer value))
    (float : ∀ value, motive (float value))
    (nonFinite : ∀ value, motive (nonFinite value))
    (text : ∀ value, motive (text value))
    (sequence :
      ∀ items, (∀ item ∈ items, motive item) → motive (sequence items))
    (mapping :
      ∀ entries,
        (∀ key value, (key, value) ∈ entries → motive value) →
          motive (mapping entries))
    (tagged : ∀ tag content, motive content → motive (tagged tag content)) :
    ∀ yaml, motive yaml
  | .null => null
  | .bool value => bool value
  | .integer value => integer value
  | .float value => float value
  | .nonFinite value => nonFinite value
  | .text value => text value
  | .sequence items =>
      sequence items fun item member =>
        have := List.sizeOf_lt_of_mem member
        induction null bool integer float nonFinite text sequence mapping
          tagged item
  | .mapping entries =>
      mapping entries fun _ value member =>
        have := List.sizeOf_lt_of_mem member
        induction null bool integer float nonFinite text sequence mapping
          tagged value
  | .tagged tag content =>
      tagged tag content
        (induction null bool integer float nonFinite text sequence mapping
          tagged content)
termination_by yaml => sizeOf yaml
decreasing_by
  · simp only [Yaml.sequence.sizeOf_spec]
    omega
  · simp only [Yaml.mapping.sizeOf_spec, Prod.mk.sizeOf_spec] at *
    omega
  · simp only [Yaml.tagged.sizeOf_spec]
    omega

/-! ## Parts and offences -/

/-- A key of a mapping, or a value. -/
inductive Part where
  | key (key : Yaml)
  | value (value : Yaml)

mutual

/-- The parts of a value in the order of the document. -/
def parts : Yaml → List Part
  | sequence items => .value (sequence items) :: partsOfItems items
  | mapping entries => .value (mapping entries) :: partsOfEntries entries
  | tagged tag content => .value (tagged tag content) :: content.parts
  | value => [.value value]

/-- The parts of the items of a sequence. -/
def partsOfItems : List Yaml → List Part
  | [] => []
  | item :: rest => item.parts ++ partsOfItems rest

/-- The parts of the pairs of a mapping. -/
def partsOfEntries : List (Yaml × Yaml) → List Part
  | [] => []
  | (key, value) :: rest =>
      .key key :: key.parts ++ value.parts ++ partsOfEntries rest

end

/-- Why no JSON value can have the part, if none can. -/
def Part.offence? : Part → Option DocumentError
  | key (text _) => none
  | key other => some (.nonStringKey other)
  | value (tagged tag _) => some (.unsupportedTag tag)
  | value (nonFinite number) => some (.notFinite number)
  | value _ => none

/-- All keys are strings, there are no tags, and all numbers are finite. -/
def JsonShaped (yaml : Yaml) : Prop :=
  ∀ part ∈ yaml.parts, part.offence? = none

/-- No mapping gives a key twice. -/
def DistinctKeys (yaml : Yaml) : Prop :=
  ∀ entries, .value (mapping entries) ∈ yaml.parts →
    distinctKeys entries = true

/-- The offence that comes first in the document. -/
def offence? (yaml : Yaml) : Option DocumentError :=
  yaml.parts.findSome? Part.offence?

/-- The offence that comes first in the pairs of a mapping. -/
def offenceOfEntries? (entries : List (Yaml × Yaml)) :
    Option DocumentError :=
  (partsOfEntries entries).findSome? Part.offence?

theorem offence?_eq_none_iff {yaml : Yaml} :
    yaml.offence? = none ↔ yaml.JsonShaped :=
  List.findSome?_eq_none_iff

theorem partsOfItems_eq_flatMap (items : List Yaml) :
    partsOfItems items = items.flatMap parts := by
  induction items with
  | nil => rfl
  | cons item rest ih => rw [partsOfItems, ih, List.flatMap_cons]

/-- The first offence of a sequence is that of its first item that has one. -/
theorem offence?_sequence (items : List Yaml) :
    (sequence items).offence? = items.findSome? offence? := by
  show (partsOfItems items).findSome? Part.offence? = _
  induction items with
  | nil => rfl
  | cons item rest ih =>
      rw [partsOfItems, List.findSome?_append, ih, List.findSome?_cons, offence?]
      cases item.parts.findSome? Part.offence? <;> rfl

theorem offence?_mapping (entries : List (Yaml × Yaml)) :
    (mapping entries).offence? = offenceOfEntries? entries :=
  rfl

theorem offence?_tagged (tag : String) (content : Yaml) :
    (tagged tag content).offence? = some (.unsupportedTag tag) :=
  rfl

/-- Under a string the value offends, or else what comes after it. -/
theorem offenceOfEntries?_text_cons
    (key : String)
    (value : Yaml)
    (rest : List (Yaml × Yaml)) :
    offenceOfEntries? ((text key, value) :: rest) =
      value.offence?.or (offenceOfEntries? rest) := by
  show (value.parts ++ partsOfEntries rest).findSome? Part.offence? = _
  rw [List.findSome?_append]
  rfl

/-- Any other key offends before its value. -/
theorem offenceOfEntries?_cons_of_ne
    {key : Yaml}
    (noText : ∀ name, key ≠ text name)
    (value : Yaml)
    (rest : List (Yaml × Yaml)) :
    offenceOfEntries? ((key, value) :: rest) = some (.nonStringKey key) := by
  have offends : (Part.key key).offence? = some (.nonStringKey key) := by
    cases key with
    | text name => exact absurd rfl (noText name)
    | _ => rfl
  rw [offenceOfEntries?, partsOfEntries, List.cons_append, List.cons_append,
    List.findSome?_cons, offends]

/-! ## Values in values -/

theorem DistinctKeys.item
    {items : List Yaml}
    (distinct : (sequence items).DistinctKeys)
    {item : Yaml}
    (member : item ∈ items) :
    item.DistinctKeys := by
  intro entries found
  apply distinct entries
  rw [parts, partsOfItems_eq_flatMap]
  exact
    List.mem_cons_of_mem _ (List.mem_flatMap.mpr ⟨item, member, found⟩)

theorem DistinctKeys.entries
    {entries : List (Yaml × Yaml)}
    (distinct : (mapping entries).DistinctKeys) :
    distinctKeys entries = true := by
  apply distinct entries
  rw [parts]
  exact List.mem_cons_self

theorem mem_partsOfEntries
    {entries : List (Yaml × Yaml)}
    {key value : Yaml}
    (member : (key, value) ∈ entries)
    {part : Part}
    (found : part ∈ value.parts) :
    part ∈ partsOfEntries entries := by
  induction entries with
  | nil => cases member
  | cons entry rest ih =>
      rcases entry with ⟨name, first⟩
      rw [partsOfEntries]
      rcases List.mem_cons.mp member with equal | later
      · cases equal
        simp [found]
      · simp [ih later]

theorem DistinctKeys.value
    {entries : List (Yaml × Yaml)}
    (distinct : (mapping entries).DistinctKeys)
    {key value : Yaml}
    (member : (key, value) ∈ entries) :
    value.DistinctKeys := by
  intro inner found
  apply distinct inner
  rw [parts]
  exact List.mem_cons_of_mem _ (mem_partsOfEntries member found)

/-! ## The same tree in JSON -/

mutual

/-- The JSON value is the same tree. -/
def SameTree : Yaml → Json → Prop
  | null, .null => True
  | bool value, .bool other => value = other
  | integer value, .number numeral => numeral.number = Number.ofInt value
  | float value, .number numeral => numeral.number = value
  | text value, .text other => value = other
  | sequence items, .array others => SameItems items others
  | mapping entries, .object fields => SameFields entries fields
  | _, _ => False

/-- The items are the same trees, one by one. -/
def SameItems : List Yaml → List Json → Prop
  | [], [] => True
  | item :: rest, other :: others => SameTree item other ∧ SameItems rest others
  | _, _ => False

/-- The pairs have the same keys and the same trees under them, one by one. -/
def SameFields : List (Yaml × Yaml) → List (String × Json) → Prop
  | [], [] => True
  | (key, value) :: rest, (name, other) :: others =>
      key = text name ∧ SameTree value other ∧ SameFields rest others
  | _, _ => False

end

/-- Every value of the shape of a JSON value is the same tree as one. -/
theorem exists_sameTree
    {yaml : Yaml}
    (shaped : yaml.offence? = none) :
    ∃ json, yaml.SameTree json := by
  induction yaml with
  | null => exact ⟨.null, trivial⟩
  | bool value => exact ⟨.bool value, rfl⟩
  | integer value => exact ⟨.number (.float (Number.ofInt value)), rfl⟩
  | float value => exact ⟨.number (.float value), rfl⟩
  | nonFinite value => cases shaped
  | text value => exact ⟨.text value, rfl⟩
  | sequence items ih =>
      rw [offence?_sequence, List.findSome?_eq_none_iff] at shaped
      suffices ∃ others, SameItems items others by
        rcases this with ⟨others, same⟩
        exact ⟨.array others, same⟩
      induction items with
      | nil => exact ⟨[], trivial⟩
      | cons item rest inner =>
          rw [List.forall_mem_cons] at ih shaped
          rcases ih.1 shaped.1 with ⟨other, same⟩
          rcases inner ih.2 shaped.2 with ⟨others, sameOthers⟩
          exact ⟨other :: others, same, sameOthers⟩
  | mapping entries ih =>
      rw [offence?_mapping] at shaped
      suffices ∃ fields, SameFields entries fields by
        rcases this with ⟨fields, same⟩
        exact ⟨.object fields, same⟩
      induction entries with
      | nil => exact ⟨[], trivial⟩
      | cons entry rest inner =>
          rcases entry with ⟨key, value⟩
          by_cases isText : ∃ name, key = text name
          · rcases isText with ⟨name, rfl⟩
            rw [offenceOfEntries?_text_cons, Option.or_eq_none_iff] at shaped
            rcases ih _ value List.mem_cons_self shaped.1 with ⟨other, same⟩
            rcases
                inner
                  (fun key value member =>
                    ih key value (List.mem_cons_of_mem _ member))
                  shaped.2 with
              ⟨others, sameOthers⟩
            exact ⟨(name, other) :: others, rfl, same, sameOthers⟩
          · rw [offenceOfEntries?_cons_of_ne fun name equal =>
              isText ⟨name, equal⟩] at shaped
            cases shaped
  | tagged tag content ih =>
      rw [offence?_tagged] at shaped
      cases shaped

theorem exists_mem_of_mem_keys
    {entries : List (Yaml × Yaml)}
    {fields : List (String × Json)}
    (same : SameFields entries fields)
    {name : String}
    (member : name ∈ Keyed.keys fields) :
    ∃ value, (text name, value) ∈ entries := by
  induction entries generalizing fields with
  | nil =>
      cases fields with
      | nil => cases member
      | cons field others => cases same
  | cons entry rest ih =>
      rcases entry with ⟨key, value⟩
      cases fields with
      | nil => cases same
      | cons field others =>
          rcases field with ⟨first, other⟩
          rcases same with ⟨rfl, -, sameOthers⟩
          rcases List.mem_cons.mp member with rfl | later
          · exact ⟨value, List.mem_cons_self⟩
          · rcases ih sameOthers later with ⟨twin, isTwin⟩
            exact ⟨twin, List.mem_cons_of_mem _ isTwin⟩

/-- Keys that differ as keys of a mapping differ as strings. -/
theorem nodup_keys_of_sameFields
    {entries : List (Yaml × Yaml)}
    {fields : List (String × Json)}
    (same : SameFields entries fields)
    (distinct : distinctKeys entries = true) :
    (Keyed.keys fields).Nodup := by
  induction entries generalizing fields with
  | nil =>
      cases fields with
      | nil => exact List.nodup_nil
      | cons field others => cases same
  | cons entry rest ih =>
      rcases entry with ⟨key, value⟩
      cases fields with
      | nil => cases same
      | cons field others =>
          rcases field with ⟨name, other⟩
          rcases same with ⟨rfl, -, sameOthers⟩
          rw [distinctKeys, Bool.and_eq_true, Bool.not_eq_true',
            List.any_eq_false] at distinct
          rw [Keyed.keys_cons, List.nodup_cons]
          refine ⟨?_, ih sameOthers distinct.2⟩
          intro again
          rcases exists_mem_of_mem_keys sameOthers again with ⟨twin, member⟩
          apply distinct.1 (text name, twin) member
          simp [sameKey]

end LeafPatch.Yaml
