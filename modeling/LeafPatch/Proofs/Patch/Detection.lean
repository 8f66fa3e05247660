import LeafPatch.Proofs.Document.Restorable
import LeafPatch.Proofs.Patch.Exactness

/-!
# Patches with dates and without

With dates detected each string that is a timestamp is a date, and everything
else in a document is what it is without.  Such a change of scalars in their
places keeps the shapes of both documents.  So the status stays the same, and so
do removals and additions, but for their values.

A replacement is gone if the old value and the new one have become equal.  That
is so if the two are different strings that give the same instant, in different
zones for example.  A patch with dates leaves out these replacements and no
other operation.
-/

namespace LeafPatch

/-! ## Scalars with dates detected -/

namespace Scalar

/-- What a scalar that was read without dates is with them. -/
def detected : Scalar → Scalar
  | text value =>
      match Timestamp.parse? value with
      | some instant => date instant
      | none => text value
  | value => value

/-- Whether both are strings, and timestamps of one instant. -/
def sameInstant : Scalar → Scalar → Bool
  | text left, text right =>
      match Timestamp.parse? left, Timestamp.parse? right with
      | some instant, some other => instant == other
      | _, _ => false
  | _, _ => false

theorem sameValue_detected
    {old new : Scalar}
    (oldDateless : ∀ instant, old ≠ date instant)
    (newDateless : ∀ instant, new ≠ date instant) :
    old.detected.sameValue new.detected =
      (old.sameValue new || old.sameInstant new) := by
  cases old with
  | date instant => exact absurd rfl (oldDateless instant)
  | number left =>
      cases new with
      | date instant => exact absurd rfl (newDateless instant)
      | number right => simp [detected, sameInstant]
      | text right =>
          simp only [detected]
          split <;> rfl
  | text left =>
      cases new with
      | date instant => exact absurd rfl (newDateless instant)
      | number right =>
          simp only [detected]
          split <;> rfl
      | text right =>
          by_cases same : left = right
          · subst same
            rw [sameValue_refl, sameValue_refl, Bool.true_or]
          · cases parsedLeft : Timestamp.parse? left <;>
              cases parsedRight : Timestamp.parse? right <;>
              simp [detected, sameInstant, sameValue, parsedLeft, parsedRight,
                same]

end Scalar

namespace Change

/-- The change with another value. -/
def mapValue (change : Scalar → Scalar) (found : Change) : Change :=
  { found with value := change found.value }

/-- Whether a change replaces a string of the source by one of the same instant. -/
def restates (source : Document) (change : Change) : Bool :=
  change.action == .replace
    && (source.scalarAt? change.keys).any (·.sameInstant change.value)

end Change

namespace Document

section MapScalars

variable (change : Scalar → Scalar)

theorem onLeaves_mapScalars (action : Action) (document : Document) :
    onLeaves action (document.mapScalars change) =
      (onLeaves action document).map (Change.mapValue change) := by
  rw [onLeaves, leaves_mapScalars, onLeaves, List.map_map, List.map_map]
  rfl

theorem expansionStatus_mapScalars (document : Document) :
    (document.mapScalars change).expansionStatus = document.expansionStatus := by
  rw [expansionStatus, hasUnrecognized_mapScalars, expansionStatus]

theorem additions_mapScalars (before after : List (String × Document)) :
    additions (mapScalarsWithin change before) (mapScalarsWithin change after) =
      (additions before after).map (Change.mapValue change) := by
  rw [mapScalarsWithin_eq_map, mapScalarsWithin_eq_map, additions, additions,
    List.flatMap_map, List.map_flatMap]
  apply List.flatMap_congr
  rintro ⟨key, child⟩ member
  rw [Keyed.contains_map]
  split
  · rfl
  · rw [onLeaves_mapScalars, List.map_map, List.map_map]
    rfl

theorem additionsStatus_mapScalars (before after : List (String × Document)) :
    additionsStatus (mapScalarsWithin change before)
        (mapScalarsWithin change after) =
      additionsStatus before after := by
  induction after with
  | nil => rfl
  | cons entry rest ih =>
      rcases entry with ⟨key, child⟩
      rw [mapScalarsWithin, additionsStatus, ih, mapScalarsWithin_eq_map,
        Keyed.contains_map, expansionStatus_mapScalars, additionsStatus]

theorem comparisonStatusWithin_mapScalars
    {before : List (String × Document)}
    (children :
      ∀ key child, (key, child) ∈ before → ∀ target : Document,
        (child.mapScalars change).comparisonStatus (target.mapScalars change) =
          child.comparisonStatus target)
    (after : List (String × Document)) :
    comparisonStatusWithin (mapScalarsWithin change before)
        (mapScalarsWithin change after) =
      comparisonStatusWithin before after := by
  induction before with
  | nil => rfl
  | cons entry rest ih =>
      rcases entry with ⟨key, child⟩
      have later :=
        ih fun name other member =>
          children name other (List.mem_cons_of_mem _ member)
      rw [mapScalarsWithin, comparisonStatusWithin, later,
        comparisonStatusWithin, mapScalarsWithin_eq_map change after,
        Keyed.find?_map]
      cases Keyed.find? key after with
      | none => rw [Option.map_none, expansionStatus_mapScalars]
      | some other =>
          simp only [Option.map_some,
            children key child List.mem_cons_self other]

/-- The status depends on the shapes of the documents, not on their scalars. -/
theorem comparisonStatus_mapScalars (source target : Document) :
    (source.mapScalars change).comparisonStatus (target.mapScalars change) =
      source.comparisonStatus target := by
  induction source generalizing target with
  | scalar old =>
      cases target with
      | scalar new => rfl
      | unrecognized value => rfl
      | collection kind after =>
          exact expansionStatus_mapScalars change (collection kind after)
  | unrecognized value => cases target <;> rfl
  | collection kind before ih =>
      cases target with
      | scalar new =>
          exact expansionStatus_mapScalars change (collection kind before)
      | unrecognized value => rfl
      | collection otherKind after =>
          rw [mapScalars, mapScalars, comparisonStatus, comparisonStatus,
            comparisonStatusWithin_mapScalars change ih,
            additionsStatus_mapScalars]

end MapScalars

/-! ## Changes between documents with dates detected -/

/-- What is left of changes with dates detected: those that restate nothing. -/
def withDates (source : Document) (changes : List Change) : List Change :=
  (changes.filter fun change => !change.restates source).map
    (Change.mapValue Scalar.detected)

section WithDates

variable (source : Document)

theorem withDates_append (changes others : List Change) :
    withDates source (changes ++ others) =
      withDates source changes ++ withDates source others := by
  rw [withDates, List.filter_append, List.map_append]
  rfl

theorem withDates_flatMap
    {Entry : Type}
    (entries : List Entry)
    (changes : Entry → List Change) :
    withDates source (entries.flatMap changes) =
      entries.flatMap fun entry => withDates source (changes entry) := by
  rw [withDates, List.filter_flatMap, List.map_flatMap]
  rfl

/-- Only replacements restate anything. -/
theorem withDates_of_ne_replace
    {changes : List Change}
    (others : ∀ change ∈ changes, change.action ≠ .replace) :
    withDates source changes =
      changes.map (Change.mapValue Scalar.detected) := by
  have kept :
      changes.filter (fun change => !change.restates source) = changes := by
    rw [List.filter_eq_self]
    intro change member
    have other : (change.action == .replace) = false :=
      beq_false_of_ne (others change member)
    rw [Change.restates, other]
    rfl
  rw [withDates, kept]

/-- What is left of the changes below a key is what is left of them there. -/
theorem withDates_under
    {kind : CollectionKind}
    {entries : List (String × Document)}
    {key : String}
    {child : Document}
    (isChild : Keyed.find? key entries = some child)
    (changes : List Change) :
    withDates (collection kind entries) (changes.map (Change.under key)) =
      (withDates child changes).map (Change.under key) := by
  have below :
      (fun change => !change.restates (collection kind entries))
          ∘ Change.under key =
        fun change => !change.restates child := by
    funext change
    rw [Function.comp_apply, Change.restates, Change.keys_under,
      scalarAt?_cons, find?_collection, isChild]
    rfl
  rw [withDates, List.filter_map, below, withDates, List.map_map, List.map_map]
  rfl

theorem action_of_mem_onLeaves
    {action : Action}
    {document : Document}
    {change : Change}
    (member : change ∈ onLeaves action document) :
    change.action = action := by
  rcases List.mem_map.mp member with ⟨leaf, -, rfl⟩
  rfl

theorem onLeaves_detected
    (action : Action)
    (other : action ≠ .replace)
    (document : Document) :
    onLeaves action (document.mapScalars Scalar.detected) =
      withDates source (onLeaves action document) := by
  rw [withDates_of_ne_replace, onLeaves_mapScalars]
  intro change member
  rw [action_of_mem_onLeaves member]
  exact other

/-- Where shapes differ everything is removed and added, with dates as without. -/
theorem onLeaves_append_detected (before after : Document) :
    onLeaves .remove (before.mapScalars Scalar.detected)
        ++ onLeaves .add (after.mapScalars Scalar.detected) =
      withDates source (onLeaves .remove before ++ onLeaves .add after) := by
  rw [withDates_append, onLeaves_detected source .remove (by decide),
    onLeaves_detected source .add (by decide)]

theorem additions_detected (before after : List (String × Document)) :
    additions (mapScalarsWithin Scalar.detected before)
        (mapScalarsWithin Scalar.detected after) =
      withDates source (additions before after) := by
  rw [withDates_of_ne_replace, additions_mapScalars]
  intro change member
  rcases mem_additions_iff.mp member with ⟨key, child, inner, -, -, isInner, rfl⟩
  rw [Change.action_under, action_of_mem_onLeaves isInner]
  decide

end WithDates

theorem changes_detected_scalar
    {old new : Scalar}
    (oldDateless : ∀ instant, old ≠ .date instant)
    (newDateless : ∀ instant, new ≠ .date instant) :
    (scalar old.detected).changes (scalar new.detected) =
      withDates (scalar old) ((scalar old).changes (scalar new)) := by
  rw [changes, changes, Scalar.sameValue_detected oldDateless newDateless]
  cases old.sameValue new with
  | true => rfl
  | false =>
      have restates :
          (Change.mk .replace [] new).restates (scalar old) =
            old.sameInstant new :=
        rfl
      cases same : old.sameInstant new with
      | true => simp [withDates, restates, same]
      | false => simp [withDates, restates, same, Change.mapValue]

theorem changesWithin_detected
    {kind : CollectionKind}
    {before after : List (String × Document)}
    (nodup : (Keyed.keys before).Nodup)
    (children :
      ∀ key child other,
        (key, child) ∈ before → Keyed.find? key after = some other →
          (child.mapScalars Scalar.detected).changes
              (other.mapScalars Scalar.detected) =
            withDates child (child.changes other)) :
    changesWithin (mapScalarsWithin Scalar.detected before)
        (mapScalarsWithin Scalar.detected after) =
      withDates (collection kind before) (changesWithin before after) := by
  rw [changesWithin_eq_flatMap, changesWithin_eq_flatMap, withDates_flatMap,
    mapScalarsWithin_eq_map, mapScalarsWithin_eq_map, List.flatMap_map]
  apply List.flatMap_congr
  rintro ⟨key, child⟩ member
  rw [withDates_under ((Keyed.find?_eq_some_iff nodup).mpr member),
    Keyed.find?_map]
  congr 1
  cases found : Keyed.find? key after with
  | none => exact onLeaves_detected child .remove (by decide) child
  | some other => exact children key child other member found

/--
The changes with dates are those without, in the same order, but for the
replacements of one timestamp by another of the same instant.
-/
theorem changes_detected
    {source target : Document}
    (distinct : source.DistinctKeys)
    (sourceDateless : source.Dateless)
    (targetDateless : target.Dateless) :
    (source.mapScalars Scalar.detected).changes
        (target.mapScalars Scalar.detected) =
      withDates source (source.changes target) := by
  induction source generalizing target with
  | scalar old =>
      cases target with
      | scalar new =>
          exact
            changes_detected_scalar (dateless_scalar_iff.mp sourceDateless)
              (dateless_scalar_iff.mp targetDateless)
      | unrecognized value => rfl
      | collection kind after =>
          exact onLeaves_append_detected _ (scalar old) (collection kind after)
  | unrecognized value => cases target <;> rfl
  | collection kind before ih =>
      cases target with
      | scalar new =>
          exact onLeaves_append_detected _ (collection kind before) (scalar new)
      | unrecognized value => rfl
      | collection otherKind after =>
          rw [mapScalars, mapScalars, changes, changes, withDates_append,
            additions_detected (collection kind before) before after]
          congr 1
          apply changesWithin_detected distinct.nodup
          intro key child other member found
          exact
            ih key child member
              (distinct.descend (distinct.find?_eq_some member))
              (sourceDateless.descend member)
              (targetDateless.descend (Keyed.mem_of_find?_eq_some found))

/-- With dates detected a value is read as without, but for its strings. -/
theorem ofJson_true_eq_mapScalars (json : Json) :
    ofJson true json = (ofJson false json).mapScalars Scalar.detected := by
  apply eq_mapScalars_ofJson false (ofJson true)
  · rfl
  · intro value
    rfl
  · intro value
    rfl
  · intro value
    rfl
  · intro items
    rw [ofJson, ofJsonItems_eq_map]
  · intro fields
    rw [ofJson, ofJsonFields_eq_map]

/--
A patch between two values with dates detected has the status of the one
without, and its operations in their order, except that it leaves out the
replacements of one timestamp by another of the same instant.  The value of each
operation is the same number or string, or the date that the string is.
-/
theorem patchTo_detectDates
    (before after : Json)
    (basePath : String)
    (style : Pointer.Style)
    (distinct : (ofJson false before).DistinctKeys) :
    let patch (detectDates : Bool) :=
      (ofJson detectDates before).patchTo (ofJson detectDates after)
        ⟨basePath, style, detectDates⟩
    let source := ofJson false before
    let changes := source.changes (ofJson false after)
    let kept := changes.filter fun change => !change.restates source
    let locate := Change.locate style basePath
    let label (operation : Operation) := (operation.action, operation.path)
    (patch true).status = (patch false).status
      ∧ (patch false).operations = changes.map locate
      ∧ (patch true).operations =
          (kept.map (Change.mapValue Scalar.detected)).map locate
      ∧ (patch true).operations.map label = (kept.map locate).map label := by
  intro patch source changes kept locate label
  have dated :
      (ofJson true before).changes (ofJson true after) =
        kept.map (Change.mapValue Scalar.detected) := by
    rw [ofJson_true_eq_mapScalars before, ofJson_true_eq_mapScalars after]
    exact
      changes_detected distinct (dateless_ofJson before) (dateless_ofJson after)
  have operations :
      (patch true).operations =
        (kept.map (Change.mapValue Scalar.detected)).map locate := by
    rw [← dated]
    rfl
  refine ⟨?_, rfl, operations, ?_⟩
  · rw [status_patchTo, status_patchTo, ofJson_true_eq_mapScalars before,
      ofJson_true_eq_mapScalars after, comparisonStatus_mapScalars]
  · rw [operations, List.map_map, List.map_map, List.map_map]
    rfl

/--
One timestamp given in another zone, one that gives way to another string, one
that is removed and one that is added.
-/
theorem patchTo_detectDates_otherZone :
    let before : Json :=
      .object
        [("boot", .text "2024-05-01T10:00:00Z"),
          ("due", .text "2024-05-01T10:00:00Z"),
          ("old", .text "2024-05-01T10:00:00Z")]
    let after : Json :=
      .object
        [("boot", .text "2024-05-01T12:00:00+02:00"),
          ("due", .text "soon"),
          ("new", .array [.text "2024-05-01T10:00:00Z"])]
    let patch (detectDates : Bool) :=
      (ofJson detectDates before).patchTo (ofJson detectDates after)
        ⟨"", .escaped, detectDates⟩
    let label (operation : Operation) := (operation.action, operation.path)
    (ofJson false before).DistinctKeys
      ∧ (patch true).status = (patch false).status
      ∧ (patch false).operations.map label =
          [(.replace, "/boot"), (.replace, "/due"), (.remove, "/old"),
            (.add, "/new/0")]
      ∧ (patch true).operations.map label =
          [(.replace, "/due"), (.remove, "/old"), (.add, "/new/0")] := by
  intro before after patch label
  have distinct : (ofJson false before).DistinctKeys := by
    simp [before, ofJson, ofJsonFields, DistinctKeys, DistinctKeysWithin,
      Keyed.keys]
  rcases patchTo_detectDates before after "" .escaped distinct with
    ⟨status, plain, -, dated⟩
  refine ⟨distinct, status, ?_, ?_⟩
  · rw [plain]
    decide +kernel
  · rw [dated]
    decide +kernel

end Document

end LeafPatch
