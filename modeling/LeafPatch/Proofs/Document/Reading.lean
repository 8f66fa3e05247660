import LeafPatch.Document.Reader
import LeafPatch.Proofs.Document.Aligned

/-!
# Documents that are read

A document that is read from JSON gives no key twice.  While the text is read,
this holds of every object that is open and of every value that has been read,
one token after the other: a key that is given again replaces its value.

An array that is read has its items under their indices, at whatever depth it
stands.
-/

namespace LeafPatch

namespace Document

/-! ## Classified JSON -/

theorem ofJsonItems_eq_map (detectDates : Bool) (items : List Json) :
    ofJsonItems detectDates items = items.map (ofJson detectDates) := by
  induction items with
  | nil => rfl
  | cons item rest ih => rw [ofJsonItems, ih, List.map_cons]

theorem ofJsonFields_eq_map
    (detectDates : Bool)
    (fields : List (String × Json)) :
    ofJsonFields detectDates fields =
      fields.map fun field => (field.1, ofJson detectDates field.2) := by
  induction fields with
  | nil => rfl
  | cons field rest ih =>
      rcases field with ⟨key, value⟩
      rw [ofJsonFields, ih, List.map_cons]

@[simp]
theorem keys_ofJsonFields
    (detectDates : Bool)
    (fields : List (String × Json)) :
    Keyed.keys (ofJsonFields detectDates fields) = Keyed.keys fields := by
  rw [ofJsonFields_eq_map, Keyed.keys, Keyed.keys, List.map_map]
  rfl

theorem toJsonItems_eq_map (entries : List (String × Document)) :
    toJsonItems entries = (entries.map Prod.snd).map toJson := by
  induction entries with
  | nil => rfl
  | cons entry rest ih =>
      rcases entry with ⟨key, child⟩
      rw [toJsonItems, ih, List.map_cons, List.map_cons]

theorem toJsonFields_eq_map (entries : List (String × Document)) :
    toJsonFields entries =
      entries.map fun entry => (entry.1, entry.2.toJson) := by
  induction entries with
  | nil => rfl
  | cons entry rest ih =>
      rcases entry with ⟨key, child⟩
      rw [toJsonFields, ih, List.map_cons]

theorem find?_toJsonFields
    (key : String)
    (entries : List (String × Document)) :
    Keyed.find? key (toJsonFields entries) =
      (Keyed.find? key entries).map toJson := by
  rw [toJsonFields_eq_map, Keyed.find?_map]

@[simp]
theorem keys_toJsonFields (entries : List (String × Document)) :
    Keyed.keys (toJsonFields entries) = Keyed.keys entries := by
  rw [toJsonFields_eq_map, Keyed.keys, Keyed.keys, List.map_map]
  rfl

/-- What stands anywhere in a classified value is a classified value. -/
theorem exists_ofJson_of_follow?
    {detectDates : Bool}
    {json : Json}
    {keys : List String}
    {node : Document}
    (found : (ofJson detectDates json).follow? keys = some node) :
    ∃ inner, node = ofJson detectDates inner := by
  induction keys generalizing json with
  | nil =>
      cases found
      exact ⟨json, rfl⟩
  | cons key rest ih =>
      rw [follow?_cons, Option.bind_eq_some_iff] at found
      rcases found with ⟨child, isChild, found⟩
      suffices ∃ inner, child = ofJson detectDates inner by
        rcases this with ⟨inner, rfl⟩
        exact ih found
      cases json with
      | array items =>
          rw [ofJson, ofJsonItems_eq_map] at isChild
          have member :=
            Keyed.mem_of_mem_indexed (Keyed.mem_of_find?_eq_some isChild)
          rcases List.mem_map.mp member with ⟨inner, -, equal⟩
          exact ⟨inner, equal.symm⟩
      | object fields =>
          rw [ofJson, ofJsonFields_eq_map] at isChild
          rcases List.mem_map.mp (Keyed.mem_of_find?_eq_some isChild) with
            ⟨⟨name, inner⟩, -, equal⟩
          cases equal
          exact ⟨inner, rfl⟩
      | null => cases isChild
      | bool value => cases isChild
      | number value => cases isChild
      | text value => cases isChild

/-- Arrays have their items under their indices. -/
theorem indexed_ofJson (detectDates : Bool) (json : Json) :
    (ofJson detectDates json).Indexed := by
  intro keys entries found
  rcases exists_ofJson_of_follow? found with ⟨inner, equal⟩
  cases inner with
  | array items =>
      cases equal
      rw [Keyed.keys_indexed, Keyed.length_indexed, List.range_eq_range']
  | object fields => cases equal
  | null => cases equal
  | bool value => cases equal
  | number value => cases equal
  | text value => cases equal

/-! ## Keys while reading -/

/-- The fields have distinct keys, and so have all objects in their values. -/
def DistinctFields
    (detectDates : Bool)
    (fields : List (String × Json)) : Prop :=
  (ofJson detectDates (.object fields)).DistinctKeys

theorem distinctFields_iff
    {detectDates : Bool}
    {fields : List (String × Json)} :
    DistinctFields detectDates fields ↔
      (Keyed.keys fields).Nodup
        ∧ ∀ key value, (key, value) ∈ fields →
            (ofJson detectDates value).DistinctKeys := by
  rw [DistinctFields, ofJson, distinctKeys_collection_iff, keys_ofJsonFields,
    ofJsonFields_eq_map]
  refine and_congr_right fun _ => ?_
  constructor
  · intro all key value member
    exact all key _ (List.mem_map.mpr ⟨(key, value), member, rfl⟩)
  · intro all key child member
    rcases List.mem_map.mp member with ⟨⟨name, value⟩, isField, equal⟩
    cases equal
    exact all name value isField

theorem distinctKeys_array
    {detectDates : Bool}
    {items : List Json}
    (children : ∀ item ∈ items, (ofJson detectDates item).DistinctKeys) :
    (ofJson detectDates (.array items)).DistinctKeys := by
  rw [ofJson, ofJsonItems_eq_map, distinctKeys_collection_iff]
  refine ⟨Keyed.nodup_keys_indexed _ _, ?_⟩
  intro key child member
  rcases List.mem_map.mp (Keyed.mem_of_mem_indexed member) with
    ⟨item, isItem, rfl⟩
  exact children item isItem

/-- A key that is given again keeps keys distinct. -/
theorem DistinctFields.insert
    {detectDates : Bool}
    {fields : List (String × Json)}
    {key : String}
    {value : Json}
    (distinct : DistinctFields detectDates fields)
    (valueDistinct : (ofJson detectDates value).DistinctKeys) :
    DistinctFields detectDates (Keyed.insert key value fields) := by
  rw [distinctFields_iff] at distinct ⊢
  refine ⟨Keyed.nodup_keys_insert key value distinct.1, ?_⟩
  intro name inner member
  rcases Keyed.mem_insert member with ⟨rfl, rfl⟩ | isOld
  · exact valueDistinct
  · exact distinct.2 name inner isOld

end Document

namespace Json

open Document hiding read

/-- What is open keeps its keys distinct. -/
def Frame.Distinct (detectDates : Bool) : Frame → Prop
  | .items read => ∀ item ∈ read, (ofJson detectDates item).DistinctKeys
  | .fields read _ => DistinctFields detectDates read

/-- What has just been read keeps its keys distinct. -/
def Awaiting.Distinct (detectDates : Bool) : Awaiting → Prop
  | .value => True
  | .firstItem => True
  | .firstKey => True
  | .key read => DistinctFields detectDates read
  | .colon read _ => DistinctFields detectDates read
  | .after json => (ofJson detectDates json).DistinctKeys

namespace Progress

/-- Everything that has been read keeps its keys distinct. -/
structure Distinct (detectDates : Bool) (progress : Progress) : Prop where
  stack : ∀ frame ∈ progress.stack, frame.Distinct detectDates
  awaiting : progress.awaiting.Distinct detectDates

theorem distinct_startValue?
    {detectDates : Bool}
    {stack : List Frame}
    {token : Token}
    {next : Progress}
    (distinct : ∀ frame ∈ stack, frame.Distinct detectDates)
    (started : startValue? stack token = some next) :
    next.Distinct detectDates := by
  unfold startValue? at started
  split at started
  · cases started
    exact ⟨distinct, trivial⟩
  · cases started
    exact ⟨distinct, trivial⟩
  · cases started
    exact ⟨distinct, trivial⟩
  · cases started
    exact ⟨distinct, trivial⟩
  · split at started
    · cases started
      refine ⟨?_, trivial⟩
      rw [List.forall_mem_cons]
      exact ⟨by simp [Frame.Distinct], distinct⟩
    · cases started
  · split at started
    · cases started
      refine ⟨?_, trivial⟩
      rw [List.forall_mem_cons]
      exact ⟨by simp [Frame.Distinct, distinctFields_iff], distinct⟩
    · cases started
  · cases started

/-- A token keeps keys distinct. -/
theorem Distinct.step
    {detectDates : Bool}
    {progress next : Progress}
    {token : Token}
    (distinct : progress.Distinct detectDates)
    (stepped : progress.step? token = some next) :
    next.Distinct detectDates := by
  rcases progress with ⟨stack, awaiting⟩
  rcases distinct with ⟨stackDistinct, awaitingDistinct⟩
  unfold step? at stepped
  simp only at stepped stackDistinct awaitingDistinct
  split at stepped
  · exact distinct_startValue? stackDistinct stepped
  · -- the end of an array without items
    cases stepped
    rw [List.forall_mem_cons] at stackDistinct
    exact ⟨stackDistinct.2, distinctKeys_array (by simp)⟩
  · exact distinct_startValue? stackDistinct stepped
  · -- the end of an object without fields
    cases stepped
    rw [List.forall_mem_cons] at stackDistinct
    exact ⟨stackDistinct.2, distinctFields_iff.mpr (by simp)⟩
  · -- the first key of an object
    cases stepped
    rw [List.forall_mem_cons] at stackDistinct
    exact ⟨stackDistinct.2, stackDistinct.1⟩
  · -- a later key
    cases stepped
    exact ⟨stackDistinct, awaitingDistinct⟩
  · -- the colon after a key
    cases stepped
    exact ⟨List.forall_mem_cons.mpr ⟨awaitingDistinct, stackDistinct⟩, trivial⟩
  · -- an item, and a comma after it
    cases stepped
    rw [List.forall_mem_cons] at stackDistinct
    refine ⟨List.forall_mem_cons.mpr ⟨?_, stackDistinct.2⟩, trivial⟩
    exact List.forall_mem_cons.mpr ⟨awaitingDistinct, stackDistinct.1⟩
  · -- the last item, and the end of the array
    cases stepped
    rw [List.forall_mem_cons] at stackDistinct
    refine ⟨stackDistinct.2, distinctKeys_array ?_⟩
    intro item member
    rcases List.mem_cons.mp (List.mem_reverse.mp member) with rfl | isOld
    · exact awaitingDistinct
    · exact stackDistinct.1 item isOld
  · -- a value, and a comma after it
    cases stepped
    rw [List.forall_mem_cons] at stackDistinct
    exact ⟨stackDistinct.2, stackDistinct.1.insert awaitingDistinct⟩
  · -- the last value, and the end of the object
    cases stepped
    rw [List.forall_mem_cons] at stackDistinct
    exact ⟨stackDistinct.2, stackDistinct.1.insert awaitingDistinct⟩
  · cases stepped

/-- Tokens keep keys distinct. -/
theorem Distinct.run
    {detectDates : Bool}
    {progress final : Progress}
    {tokens : List Token}
    (distinct : progress.Distinct detectDates)
    (ran : tokens.foldlM step? progress = some final) :
    final.Distinct detectDates := by
  induction tokens generalizing progress with
  | nil =>
      cases ran
      exact distinct
  | cons first rest ih =>
      rw [List.foldlM_cons] at ran
      rcases Option.bind_eq_some_iff.mp ran with ⟨next, stepped, later⟩
      exact ih (distinct.step stepped) later

end Progress

/-- The objects of a value that is read have distinct keys. -/
theorem distinctKeys_of_parse?
    (detectDates : Bool)
    {text : String}
    {json : Json}
    (parsed : parse? text = some json) :
    (ofJson detectDates json).DistinctKeys := by
  rw [parse?, ofChars?] at parsed
  rcases Option.bind_eq_some_iff.mp parsed with ⟨tokens, -, parsed⟩
  rcases Option.bind_eq_some_iff.mp parsed with ⟨⟨stack, awaiting⟩, ran, ended⟩
  have initial : Progress.initial.Distinct detectDates :=
    ⟨by simp [Progress.initial], trivial⟩
  have final := initial.run ran
  unfold Progress.result? at ended
  split at ended
  · next isAfter isOuter =>
      cases ended
      have read := final.awaiting
      rw [isAfter] at read
      exact read
  · cases ended

end Json

namespace Document

/--
A document that is read from JSON has distinct keys, and its arrays count from
zero.
-/
theorem wellFormed_of_readJson
    {detectDates : Bool}
    {text : String}
    {document : Document}
    (isRead : readJson detectDates text = .ok document) :
    document.DistinctKeys ∧ document.Indexed := by
  unfold readJson at isRead
  split at isRead
  · next json parsed =>
      cases isRead
      exact
        ⟨Json.distinctKeys_of_parse? detectDates parsed,
          indexed_ofJson detectDates json⟩
  · cases isRead

end Document

end LeafPatch
