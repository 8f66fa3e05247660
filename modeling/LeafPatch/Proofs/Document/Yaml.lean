import LeafPatch.Document.Yaml
import LeafPatch.Proofs.Attempt
import LeafPatch.Proofs.Document.Collection
import LeafPatch.Proofs.Document.Reading
import LeafPatch.Proofs.Yaml.Parts

/-!
# Documents from YAML

A YAML value is a document exactly if it has the shape of a JSON value, and then
it is the document of any JSON value that is the same tree.  Otherwise the error
is the offence that comes first in the document.

The two classifiers go about it differently: children under the fields of a JSON
object are listed, and those under the pairs of a YAML mapping are given one
after the other, the first error being the last thing that happens.  That comes
to the same because no mapping gives a key twice.

Whether it does or not, a key that is given again replaces its child, so a
document from YAML has distinct keys.
-/

namespace LeafPatch

namespace Document

open Yaml (SameTree SameItems SameFields JsonShaped Part)

section Classified

variable (detectDates : Bool)

/-! ## Values of the shape of JSON -/

theorem ofYamlItems_of_sameItems
    {items : List Yaml}
    {others : List Json}
    (same : SameItems items others)
    (classified :
      ∀ item ∈ items, ∀ other, item.SameTree other →
        ofYaml detectDates item = .ok (ofJson detectDates other)) :
    ofYamlItems detectDates items = .ok (ofJsonItems detectDates others) := by
  induction items generalizing others with
  | nil =>
      cases others with
      | nil => rfl
      | cons other rest => cases same
  | cons item rest ih =>
      cases others with
      | nil => cases same
      | cons other later =>
          rcases same with ⟨sameItem, sameRest⟩
          rw [List.forall_mem_cons] at classified
          rw [ofYamlItems, classified.1 other sameItem, ofJsonItems]
          show (ofYamlItems detectDates rest).bind _ = _
          rw [ih sameRest classified.2]
          rfl

/-- Distinct keys are given one after the other as they are listed. -/
theorem ofYamlEntries_of_sameFields
    {entries : List (Yaml × Yaml)}
    {fields : List (String × Json)}
    (same : SameFields entries fields)
    (classified :
      ∀ key value, (key, value) ∈ entries → ∀ other, value.SameTree other →
        ofYaml detectDates value = .ok (ofJson detectDates other))
    (children : List (String × Document))
    (distinct : (Keyed.keys children ++ Keyed.keys fields).Nodup) :
    ofYamlEntries detectDates children entries =
      .ok (children ++ ofJsonFields detectDates fields) := by
  induction entries generalizing fields children with
  | nil =>
      cases fields with
      | nil =>
          rw [ofYamlEntries, ofJsonFields, List.append_nil]
      | cons field rest => cases same
  | cons entry rest ih =>
      rcases entry with ⟨key, value⟩
      cases fields with
      | nil => cases same
      | cons field later =>
          rcases field with ⟨name, other⟩
          rcases same with ⟨rfl, sameValue, sameRest⟩
          have fresh : name ∉ Keyed.keys children := by
            rw [Keyed.keys_cons, List.nodup_append] at distinct
            intro member
            exact distinct.2.2 name member name List.mem_cons_self rfl
          rw [ofYamlEntries,
            classified _ value List.mem_cons_self other sameValue]
          show
            ofYamlEntries detectDates
                (Keyed.insert name (ofJson detectDates other) children) rest =
              _
          rw [Keyed.insert_of_not_mem _ fresh, ih sameRest, ofJsonFields,
            List.append_assoc]
          · rfl
          · intro key value member
            exact classified key value (List.mem_cons_of_mem _ member)
          · rw [Keyed.keys_append, List.append_assoc]
            exact distinct

/-- The same tree is the same document. -/
theorem ofYaml_of_sameTree
    {yaml : Yaml}
    (distinct : yaml.DistinctKeys)
    {json : Json}
    (same : yaml.SameTree json) :
    ofYaml detectDates yaml = .ok (ofJson detectDates json) := by
  induction yaml generalizing json with
  | null =>
      cases json with
      | null => rfl
      | _ => cases same
  | bool value =>
      cases json with
      | bool other =>
          cases same
          rfl
      | _ => cases same
  | integer value =>
      cases json with
      | number numeral =>
          rw [ofYaml, ofJson, show numeral.number = Number.ofInt value from same]
      | _ => cases same
  | float value =>
      cases json with
      | number numeral =>
          rw [ofYaml, ofJson, show numeral.number = value from same]
      | _ => cases same
  | nonFinite value => cases json <;> cases same
  | text value =>
      cases json with
      | text other =>
          cases same
          rfl
      | _ => cases same
  | sequence items ih =>
      cases json with
      | array others =>
          have children :=
            ofYamlItems_of_sameItems detectDates same
              fun item member other sameItem =>
                ih item member (distinct.item member) sameItem
          rw [ofYaml, children]
          rfl
      | _ => cases same
  | mapping entries ih =>
      cases json with
      | object fields =>
          have children :=
            ofYamlEntries_of_sameFields detectDates same
              (fun key value member other sameValue =>
                ih key value member (distinct.value member) sameValue)
              [] (Yaml.nodup_keys_of_sameFields same distinct.entries)
          rw [ofYaml, children]
          rfl
      | _ => cases same
  | tagged tag content ih => cases json <;> cases same

/-! ## The first offence -/

/-- A value without offences is classified. -/
theorem exists_ofYaml_of_offence?_eq_none
    {yaml : Yaml}
    (distinct : yaml.DistinctKeys)
    (shaped : yaml.offence? = none) :
    ∃ document, ofYaml detectDates yaml = .ok document := by
  rcases Yaml.exists_sameTree shaped with ⟨json, same⟩
  exact
    ⟨ofJson detectDates json, ofYaml_of_sameTree detectDates distinct same⟩

theorem ofYamlItems_eq_error
    {items : List Yaml}
    {error : DocumentError}
    (offends : items.findSome? Yaml.offence? = some error)
    (classified :
      ∀ item ∈ items, item.offence? = none →
        ∃ document, ofYaml detectDates item = .ok document)
    (refused :
      ∀ item ∈ items, item.offence? = some error →
        ofYaml detectDates item = .error error) :
    ofYamlItems detectDates items = .error error := by
  induction items with
  | nil => cases offends
  | cons item rest ih =>
      rw [List.forall_mem_cons] at classified refused
      rw [List.findSome?_cons] at offends
      rw [ofYamlItems]
      cases first : item.offence? with
      | some offence =>
          rw [first] at offends
          cases offends
          rw [refused.1 first]
          rfl
      | none =>
          rw [first] at offends
          rcases classified.1 first with ⟨document, isDocument⟩
          rw [isDocument]
          show (ofYamlItems detectDates rest).bind _ = _
          rw [ih offends classified.2 refused.2]
          rfl

theorem ofYamlEntries_eq_error
    {entries : List (Yaml × Yaml)}
    {error : DocumentError}
    (offends : Yaml.offenceOfEntries? entries = some error)
    (classified :
      ∀ key value, (key, value) ∈ entries → value.offence? = none →
        ∃ document, ofYaml detectDates value = .ok document)
    (refused :
      ∀ key value, (key, value) ∈ entries → value.offence? = some error →
        ofYaml detectDates value = .error error)
    (children : List (String × Document)) :
    ofYamlEntries detectDates children entries = .error error := by
  induction entries generalizing children with
  | nil => cases offends
  | cons entry rest ih =>
      rcases entry with ⟨key, value⟩
      by_cases isText : ∃ name, key = .text name
      · rcases isText with ⟨name, rfl⟩
        rw [Yaml.offenceOfEntries?_text_cons] at offends
        rw [ofYamlEntries]
        cases first : value.offence? with
        | some offence =>
            rw [first] at offends
            cases offends
            rw [refused _ value List.mem_cons_self first]
            rfl
        | none =>
            rw [first, Option.none_or] at offends
            rcases classified _ value List.mem_cons_self first with
              ⟨document, isDocument⟩
            rw [isDocument]
            apply ih offends
            · intro key value member
              exact classified key value (List.mem_cons_of_mem _ member)
            · intro key value member
              exact refused key value (List.mem_cons_of_mem _ member)
      · have noText : ∀ name, key ≠ .text name :=
          fun name equal => isText ⟨name, equal⟩
        rw [Yaml.offenceOfEntries?_cons_of_ne noText] at offends
        cases offends
        rw [ofYamlEntries]
        exact noText

/-- The offence that comes first is the error. -/
theorem ofYaml_eq_error_of_offence?
    {yaml : Yaml}
    (distinct : yaml.DistinctKeys)
    {error : DocumentError}
    (offends : yaml.offence? = some error) :
    ofYaml detectDates yaml = .error error := by
  induction yaml with
  | null => cases offends
  | bool value => cases offends
  | integer value => cases offends
  | float value => cases offends
  | nonFinite value =>
      cases offends
      rfl
  | text value => cases offends
  | sequence items ih =>
      rw [Yaml.offence?_sequence] at offends
      rw [ofYaml, ofYamlItems_eq_error detectDates offends]
      · rfl
      · intro item member shaped
        exact
          exists_ofYaml_of_offence?_eq_none detectDates (distinct.item member)
            shaped
      · intro item member offends
        exact ih item member (distinct.item member) offends
  | mapping entries ih =>
      rw [Yaml.offence?_mapping] at offends
      rw [ofYaml, ofYamlEntries_eq_error detectDates offends]
      · rfl
      · intro key value member shaped
        exact
          exists_ofYaml_of_offence?_eq_none detectDates (distinct.value member)
            shaped
      · intro key value member offends
        exact ih key value member (distinct.value member) offends
  | tagged tag content ih =>
      rw [Yaml.offence?_tagged] at offends
      cases offends
      rfl

/-- Whatever a value is, an offence decides. -/
theorem ofYaml_eq_error_iff
    {yaml : Yaml}
    (distinct : yaml.DistinctKeys)
    {error : DocumentError} :
    ofYaml detectDates yaml = .error error ↔ yaml.offence? = some error := by
  constructor
  · intro refused
    cases first : yaml.offence? with
    | some offence =>
        rw [ofYaml_eq_error_of_offence? detectDates distinct first] at refused
        cases refused
        rfl
    | none =>
        rcases
            exists_ofYaml_of_offence?_eq_none detectDates distinct first with
          ⟨document, isDocument⟩
        rw [isDocument] at refused
        cases refused
  · exact ofYaml_eq_error_of_offence? detectDates distinct

theorem exists_ofYaml_iff
    {yaml : Yaml}
    (distinct : yaml.DistinctKeys) :
    (∃ document, ofYaml detectDates yaml = .ok document) ↔
      yaml.JsonShaped := by
  rw [← Yaml.offence?_eq_none_iff]
  constructor
  · rintro ⟨document, isDocument⟩
    rw [Option.eq_none_iff_forall_not_mem]
    intro offence first
    rw [ofYaml_eq_error_of_offence? detectDates distinct first] at isDocument
    cases isDocument
  · exact exists_ofYaml_of_offence?_eq_none detectDates distinct

/-- The document of a YAML value is that of some JSON value. -/
theorem exists_ofJson_of_ofYaml
    {yaml : Yaml}
    (distinct : yaml.DistinctKeys)
    {document : Document}
    (classified : ofYaml detectDates yaml = .ok document) :
    ∃ json, document = ofJson detectDates json := by
  have shaped := (exists_ofYaml_iff detectDates distinct).mp ⟨_, classified⟩
  rcases Yaml.exists_sameTree (Yaml.offence?_eq_none_iff.mpr shaped) with
    ⟨json, same⟩
  rw [ofYaml_of_sameTree detectDates distinct same] at classified
  cases classified
  exact ⟨json, rfl⟩

end Classified

/-! ## Distinct keys -/

section Distinct

variable {detectDates : Bool}

/-- The children under the items of a sequence are the classified items. -/
theorem exists_item_of_ofYamlItems
    {items : List Yaml}
    {children : List Document}
    (classified : ofYamlItems detectDates items = .ok children)
    {child : Document}
    (member : child ∈ children) :
    ∃ item ∈ items, ofYaml detectDates item = .ok child := by
  induction items generalizing children with
  | nil =>
      cases classified
      cases member
  | cons item rest ih =>
      rw [ofYamlItems] at classified
      rcases bind_eq_ok_iff.mp classified with ⟨first, isFirst, classified⟩
      rcases bind_eq_ok_iff.mp classified with ⟨later, isLater, ⟨⟩⟩
      rcases List.mem_cons.mp member with rfl | inLater
      · exact ⟨item, List.mem_cons_self, isFirst⟩
      · rcases ih isLater inLater with ⟨found, isItem, isChild⟩
        exact ⟨found, List.mem_cons_of_mem _ isItem, isChild⟩

/-- Children with distinct keys keep them so when pairs are given to them. -/
theorem distinctKeys_ofYamlEntries
    {entries : List (Yaml × Yaml)}
    {before after : List (String × Document)}
    (distinct : (collection .mapping before).DistinctKeys)
    (values :
      ∀ key value, (key, value) ∈ entries →
        ∀ document, ofYaml detectDates value = .ok document →
          document.DistinctKeys)
    (classified : ofYamlEntries detectDates before entries = .ok after) :
    (collection .mapping after).DistinctKeys := by
  induction entries generalizing before with
  | nil =>
      cases classified
      exact distinct
  | cons entry rest ih =>
      rcases entry with ⟨key, value⟩
      cases key with
      | text name =>
          rw [ofYamlEntries] at classified
          rcases bind_eq_ok_iff.mp classified with ⟨child, isChild, later⟩
          have childDistinct :=
            values _ value List.mem_cons_self child isChild
          refine ih ?_ ?_ later
          · exact
              Collection.distinctKeys_insert
                (show (Collection.toDocument ⟨.mapping, before⟩).DistinctKeys
                  from distinct)
                name childDistinct
          · intro key value member
            exact values key value (List.mem_cons_of_mem _ member)
      | _ => cases classified

/-- A document from YAML gives no key twice. -/
theorem distinctKeys_ofYaml
    {yaml : Yaml}
    {document : Document}
    (classified : ofYaml detectDates yaml = .ok document) :
    document.DistinctKeys := by
  induction yaml generalizing document with
  | null =>
      cases classified
      trivial
  | bool value =>
      cases classified
      trivial
  | integer value =>
      cases classified
      trivial
  | float value =>
      cases classified
      trivial
  | nonFinite value => cases classified
  | text value =>
      cases classified
      trivial
  | sequence items ih =>
      rw [ofYaml] at classified
      rcases bind_eq_ok_iff.mp classified with ⟨children, isItems, ⟨⟩⟩
      apply Collection.distinctKeys_sequence
      intro child member
      rcases exists_item_of_ofYamlItems isItems member with
        ⟨item, isItem, isChild⟩
      exact ih item isItem isChild
  | mapping entries ih =>
      rw [ofYaml] at classified
      rcases bind_eq_ok_iff.mp classified with ⟨children, isEntries, ⟨⟩⟩
      refine distinctKeys_ofYamlEntries ?_ ?_ isEntries
      · exact distinctKeys_collection_iff.mpr ⟨List.nodup_nil, by simp⟩
      · intro key value member child isChild
        exact ih key value member isChild
  | tagged tag content ih => cases classified

/-- A document that is read gives no key twice, whatever the format. -/
theorem distinctKeys_of_read
    {format : DocumentFormat}
    {text : String}
    {document : Document}
    (isRead : read format detectDates text = .ok document) :
    document.DistinctKeys := by
  cases format with
  | json => exact (wellFormed_of_readJson isRead).1
  | yaml =>
      rw [read, readYaml] at isRead
      split at isRead
      · exact distinctKeys_ofYaml isRead
      · cases isRead

end Distinct

/--
A YAML value is classified exactly if all its keys are strings, nothing in it has
a tag and all its numbers are finite.  It is then the same tree as some JSON
value, and it is classified as any such JSON value is.  Otherwise the error is
the first offence among its parts in the order of the document.
-/
theorem ofYaml_agrees
    (detectDates : Bool)
    (yaml : Yaml)
    (distinct : yaml.DistinctKeys) :
    ((∃ document, ofYaml detectDates yaml = .ok document) ↔ yaml.JsonShaped)
      ∧ (yaml.JsonShaped → ∃ json, yaml.SameTree json)
      ∧ (∀ json, yaml.SameTree json →
          ofYaml detectDates yaml = .ok (ofJson detectDates json))
      ∧ ∀ error, ofYaml detectDates yaml = .error error ↔
          ∃ before part after,
            yaml.parts = before ++ part :: after
              ∧ part.offence? = some error
              ∧ ∀ earlier ∈ before, earlier.offence? = none := by
  refine ⟨exists_ofYaml_iff detectDates distinct, ?_, ?_, ?_⟩
  · intro shaped
    exact Yaml.exists_sameTree (Yaml.offence?_eq_none_iff.mpr shaped)
  · intro json same
    exact ofYaml_of_sameTree detectDates distinct same
  · intro error
    rw [ofYaml_eq_error_iff detectDates distinct, Yaml.offence?,
      List.findSome?_eq_some_iff]

/--
An integer is the double of any JSON number that has it.  Of a tag, of a key that
is no string and of a number that is not finite, the one that comes first is the
error, and a key comes before its value.
-/
theorem ofYaml_agrees_firstOffence :
    let shaped : Yaml :=
      .mapping
        [(.text "b", .sequence [.integer 1, .text "2016-10-01T12:00:00Z"]),
          (.text "a", .null)]
    let json : Json :=
      .object
        [("b",
            .array
              [.number (.integer 1 (by decide)), .text "2016-10-01T12:00:00Z"]),
          ("a", .null)]
    let offending : Yaml :=
      .mapping
        [(.text "b", .sequence [.integer 1, .null]),
          (.integer 2, .tagged "t" (.nonFinite .notANumber)),
          (.text "a", .nonFinite (.infinity true))]
    shaped.DistinctKeys ∧ shaped.SameTree json ∧ offending.DistinctKeys
      ∧ ofYaml true shaped = .ok (ofJson true json)
      ∧ ofYaml true offending = .error (.nonStringKey (.integer 2)) := by
  intro shaped json offending
  have distinctShaped : shaped.DistinctKeys := by
    intro entries found
    simp [shaped, Yaml.parts, Yaml.partsOfItems, Yaml.partsOfEntries] at found
    rw [found]
    rfl
  have distinctOffending : offending.DistinctKeys := by
    intro entries found
    simp [offending, Yaml.parts, Yaml.partsOfItems, Yaml.partsOfEntries]
      at found
    rw [found]
    rfl
  have same : shaped.SameTree json := by
    simp [shaped, json, SameTree, SameItems, SameFields, Numeral.number]
  rcases ofYaml_agrees true shaped distinctShaped with ⟨-, -, classified, -⟩
  rcases ofYaml_agrees true offending distinctOffending with ⟨-, -, -, refused⟩
  have first :
      ofYaml true offending = .error (.nonStringKey (.integer 2)) := by
    rw [refused]
    refine
      ⟨offending.parts.take 6, .key (.integer 2), offending.parts.drop 7, rfl,
        rfl, ?_⟩
    simp [offending, Yaml.parts, Yaml.partsOfItems, Yaml.partsOfEntries,
      Part.offence?]
  exact
    ⟨distinctShaped, same, distinctOffending, classified json same, first⟩

end Document

end LeafPatch
