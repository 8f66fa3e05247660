import LeafPatch.Proofs.Document.Restorable

/-!
# Arrays that stay counted

A collection comes from a constructor or from a value that is classified.  Then
its children are inserted and assigned.  The kind stays what it is, and keys are
only ever appended: an insertion appends its key if that is not there yet, and an
assignment appends none.

A new array has its items under their indices.  It keeps them so as long as each
key that is appended is the next index, and no longer, since no later step takes a
key away.  The JSON form of an array has no keys, and when it is read again the
items stand under their indices.  So the keys come back exactly as long as they
are counted.
-/

namespace LeafPatch.Collection

/-- The keys are `"0"`, `"1"` and so on. -/
def Counted (collection : Collection) : Prop :=
  collection.keys = (List.range collection.size).map toString

/-- A collection that comes from a constructor, or stands in a classified value. -/
inductive New : Collection → Prop where
  | empty : New empty
  | sequence (items : List Document) : New (sequence items)
  | ofPairs (pairs : List (String × Document)) : New (ofPairs pairs)
  | json
      {detectDates : Bool}
      {json : Json}
      {place : List String}
      {collection : Collection}
      (found :
        (Document.ofJson detectDates json).follow? place =
          some collection.toDocument) :
      New collection
  | yaml
      {detectDates : Bool}
      {yaml : Yaml}
      {document : Document}
      {place : List String}
      {collection : Collection}
      (distinct : yaml.DistinctKeys)
      (classified : Document.ofYaml detectDates yaml = .ok document)
      (found : document.follow? place = some collection.toDocument) :
      New collection

/-- One change to the children of a collection. -/
inductive Step where
  /-- Puts a child under a key. -/
  | insert (key : String) (child : Document)
  /-- Puts a child under a key if there is one already. -/
  | assign (key : String) (child : Document)

/-- Makes one change. -/
def perform (collection : Collection) : Step → Collection
  | .insert key child => collection.insert key child
  | .assign key child => collection.assign key child

/-- Makes changes one after the other. -/
def run (collection : Collection) (steps : List Step) : Collection :=
  steps.foldl perform collection

/-- The key that a change appends, if it does. -/
def appendedKey? (collection : Collection) : Step → Option String
  | .insert key _ => if collection.contains key then none else some key
  | .assign _ _ => none

/-- If a change appends a key, that is the next index. -/
def CountsOn (collection : Collection) (step : Step) : Prop :=
  ∀ key ∈ collection.appendedKey? step, key = toString collection.size

@[simp]
theorem length_keys (collection : Collection) :
    collection.keys.length = collection.size :=
  Keyed.length_keys collection.entries

/-! ## New collections -/

theorem counted_sequence (items : List Document) :
    (sequence items).Counted := by
  show Keyed.keys (Keyed.indexed 0 items) = _
  rw [Keyed.keys_indexed, size, sequence, Keyed.length_indexed,
    List.range_eq_range']

/-- An array in a document that is read has its items under their indices. -/
theorem counted_of_follow?_ofJson
    {detectDates : Bool}
    {json : Json}
    {place : List String}
    {collection : Collection}
    (found :
      (Document.ofJson detectDates json).follow? place =
        some collection.toDocument)
    (isSequence : collection.kind = .sequence) :
    collection.Counted := by
  rcases collection with ⟨kind, entries⟩
  cases isSequence
  exact Document.indexed_ofJson detectDates json place entries found

/-- A new array has its items under their indices. -/
theorem New.counted
    {collection : Collection}
    (isNew : New collection)
    (isSequence : collection.kind = .sequence) :
    collection.Counted := by
  cases isNew with
  | empty => cases isSequence
  | sequence items => exact counted_sequence items
  | ofPairs pairs => cases isSequence
  | json found => exact counted_of_follow?_ofJson found isSequence
  | yaml distinct classified found =>
      rcases Document.exists_ofJson_of_ofYaml _ distinct classified with
        ⟨json, rfl⟩
      exact counted_of_follow?_ofJson found isSequence

/-! ## One step -/

section Step

variable
    (collection : Collection)
    (step : Step)

@[simp]
theorem kind_perform : (collection.perform step).kind = collection.kind := by
  cases step with
  | insert key child => rfl
  | assign key child =>
      rw [perform, assign]
      split <;> rfl

theorem keys_perform :
    (collection.perform step).keys =
      collection.keys ++ (collection.appendedKey? step).toList := by
  cases step with
  | insert key child =>
      rw [perform, appendedKey?]
      split
      · next present =>
          rw [Option.toList_none, List.append_nil]
          exact
            Keyed.keys_insert_of_mem child (Keyed.contains_iff.mp present)
      · next absent =>
          exact
            Keyed.keys_insert_of_not_mem child
              fun member => absent (Keyed.contains_iff.mpr member)
  | assign key child =>
      rw [perform, assign, appendedKey?, Option.toList_none, List.append_nil]
      split
      · next present =>
          exact
            Keyed.keys_insert_of_mem child (Keyed.contains_iff.mp present)
      · rfl

/-- A step leaves counted keys that were counted before, and counts on. -/
theorem counted_perform_iff :
    (collection.perform step).Counted ↔
      collection.Counted ∧ collection.CountsOn step := by
  have keys := keys_perform collection step
  have sizes := congrArg List.length keys
  rw [length_keys, List.length_append, length_keys] at sizes
  unfold CountsOn
  cases appended : collection.appendedKey? step with
  | none =>
      rw [appended, Option.toList_none, List.append_nil] at keys
      rw [appended] at sizes
      simp [Counted, keys, sizes]
  | some key =>
      rw [appended, Option.toList_some] at keys
      rw [appended, Option.toList_some, List.length_singleton] at sizes
      rw [Counted, keys, sizes, List.range_succ, List.map_append, Counted]
      constructor
      · intro counted
        rcases List.append_inj counted (by simp) with ⟨before, last⟩
        simpa [before] using last
      · rintro ⟨before, last⟩
        rw [before, last key rfl]
        rfl

end Step

/-! ## Many steps -/

section Run

variable
    (collection : Collection)
    (steps : List Step)

theorem run_cons (step : Step) :
    collection.run (step :: steps) = (collection.perform step).run steps :=
  rfl

theorem kind_run : (collection.run steps).kind = collection.kind := by
  induction steps generalizing collection with
  | nil => rfl
  | cons step rest ih => rw [run_cons, ih, kind_perform]

/-- No key is lost or moved. -/
theorem keys_prefix_run : collection.keys <+: (collection.run steps).keys := by
  induction steps generalizing collection with
  | nil => exact List.prefix_rfl
  | cons step rest ih =>
      have first : collection.keys <+: (collection.perform step).keys := by
        rw [keys_perform]
        exact List.prefix_append _ _
      exact first.trans (ih (collection.perform step))

/-- Steps leave counted keys that were counted before, if each of them counts on. -/
theorem counted_run_iff :
    (collection.run steps).Counted ↔
      collection.Counted
        ∧ ∀ done step rest, steps = done ++ step :: rest →
            (collection.run done).CountsOn step := by
  induction steps generalizing collection with
  | nil => simp [run]
  | cons first later ih =>
      rw [run_cons, ih, counted_perform_iff, and_assoc]
      refine and_congr_right fun _ => ?_
      constructor
      · rintro ⟨countsOn, all⟩ done step rest split
        cases done with
        | nil =>
            cases split
            exact countsOn
        | cons head done =>
            cases split
            exact all done step rest rfl
      · intro all
        constructor
        · exact all [] first later rfl
        · rintro done step rest rfl
          exact all (first :: done) step rest rfl

end Run

/-- An array that is written and read again has its children under their indices. -/
theorem exists_rereading
    (detectDates : Bool)
    {collection : Collection}
    (isSequence : collection.kind = .sequence) :
    ∃ again : Collection,
      Document.ofJson detectDates collection.toDocument.toJson =
          again.toDocument
        ∧ again.kind = .sequence ∧ again.Counted
        ∧ again.size = collection.size := by
  rcases collection with ⟨kind, entries⟩
  cases isSequence
  refine
    ⟨sequence
      (Document.ofJsonItems detectDates (Document.toJsonItems entries)),
      rfl, rfl, counted_sequence _, ?_⟩
  rw [size, sequence, Keyed.length_indexed, Document.ofJsonItems_eq_map,
    Document.toJsonItems_eq_map, List.length_map, List.length_map,
    List.length_map, size]

/--
A collection keeps its kind and its keys in their order, whatever is inserted and
assigned.

A new array is counted, and so it stays exactly if every step that appends a key
appends the next index.  When it is written as JSON and read again, it is an array
of the same size whose keys are counted; these are the keys that it had exactly if
it has stayed counted.
-/
theorem New.counted_run
    {start : Collection}
    (isNew : New start)
    (steps : List Step) :
    let final := start.run steps
    final.kind = start.kind
      ∧ start.keys <+: final.keys
      ∧ (start.kind = .sequence →
          start.Counted
            ∧ (final.Counted ↔
                ∀ done step rest, steps = done ++ step :: rest →
                  (start.run done).CountsOn step)
            ∧ ∀ detectDates, ∃ again : Collection,
                Document.ofJson detectDates final.toDocument.toJson =
                    again.toDocument
                  ∧ again.kind = .sequence ∧ again.Counted
                  ∧ again.size = final.size
                  ∧ (again.keys = final.keys ↔ final.Counted)) := by
  intro final
  have kind : final.kind = start.kind := kind_run start steps
  refine ⟨kind, keys_prefix_run start steps, ?_⟩
  intro isSequence
  have counted := isNew.counted isSequence
  refine ⟨counted, ?_, ?_⟩
  · rw [counted_run_iff]
    exact and_iff_right counted
  · intro detectDates
    rcases exists_rereading detectDates (kind.trans isSequence) with
      ⟨again, isRead, isArray, countedAgain, size⟩
    refine ⟨again, isRead, isArray, countedAgain, size, ?_⟩
    rw [Counted] at countedAgain
    rw [countedAgain, size, Counted, eq_comm]

/-- An item is appended, one replaced, and one assigned that is not there. -/
theorem counted_run_nextIndex :
    let start := sequence [.ofText "a"]
    let steps : List Step :=
      [.insert "1" (.ofText "b"), .insert "0" (.ofText "c"),
        .assign "x" (.ofText "d")]
    let final := start.run steps
    New start ∧ final.kind = .sequence
      ∧ final.keys = ["0", "1"] ∧ final.Counted
      ∧ (∀ done step rest, steps = done ++ step :: rest →
          (start.run done).CountsOn step)
      ∧ ∃ again : Collection,
          Document.ofJson false final.toDocument.toJson = again.toDocument
            ∧ again.keys = final.keys := by
  intro start steps final
  have isNew : New start := .sequence _
  rcases isNew.counted_run steps with ⟨kind, -, ofArray⟩
  rcases ofArray rfl with ⟨-, counted_iff, rereading⟩
  have keys : final.keys = ["0", "1"] := rfl
  have counted : final.Counted := rfl
  rcases rereading false with ⟨again, isRead, -, -, -, sameKeys⟩
  exact
    ⟨isNew, kind, keys, counted, counted_iff.mp counted, again, isRead,
      sameKeys.mpr counted⟩

/-- A child is inserted into an array under a name, and the name is lost. -/
theorem counted_run_not_named :
    let start := sequence [.ofText "a"]
    let final := start.run [.insert "x" (.ofText "b")]
    New start ∧ final.kind = .sequence
      ∧ final.keys = ["0", "x"] ∧ ¬ final.Counted
      ∧ ∀ again : Collection,
          Document.ofJson false final.toDocument.toJson = again.toDocument →
            again.keys = ["0", "1"] := by
  intro start final
  refine ⟨.sequence _, rfl, rfl, ?_, ?_⟩
  · show ["0", "x"] ≠ ["0", "1"]
    decide
  · rintro ⟨kind, entries⟩ isRead
    cases isRead
    rfl

end LeafPatch.Collection
