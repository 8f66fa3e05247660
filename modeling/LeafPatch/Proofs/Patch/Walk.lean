import LeafPatch.Patch.Change
import LeafPatch.Proofs.Document.Leaves
import LeafPatch.Proofs.Document.SameValue
import LeafPatch.Proofs.Patch.Blocked

/-!
# The walk over two documents

One step of the walk: the changes between two collections are the changes
between what they have under each key, seen from one level further up.  A key
that only one of them has counts as well, with nothing on the other side.

From this one law by induction over the first document: a change is found if and
only if its place is not blocked and it is what the two maps of leaves call for
there.  The order of the changes is such that of two on one way the first is a
removal and the second an addition.
-/

namespace LeafPatch

namespace Change

/-- The change that a leaf calls for, by what it is before and after. -/
def between? (keys : List String) :
    Option Scalar → Option Scalar → Option Change
  | none, none => none
  | some old, none => some ⟨.remove, keys, old⟩
  | none, some new => some ⟨.add, keys, new⟩
  | some old, some new =>
      if old.sameValue new then none else some ⟨.replace, keys, new⟩

/-- Where nothing is before, only an addition is called for. -/
theorem between?_none_left_iff
    {change : Change}
    {after : Option Scalar} :
    between? change.keys none after = some change ↔
      change.action = .add ∧ after = some change.value := by
  rcases change with ⟨action, keys, value⟩
  cases after with
  | none => simp [between?]
  | some new =>
      simp only [between?, Option.some.injEq, mk.injEq, true_and]
      rw [@eq_comm _ action]

/-- Where nothing is after, only a removal is called for. -/
theorem between?_none_right_iff
    {change : Change}
    {before : Option Scalar} :
    between? change.keys before none = some change ↔
      change.action = .remove ∧ before = some change.value := by
  rcases change with ⟨action, keys, value⟩
  cases before with
  | none => simp [between?]
  | some old =>
      simp only [between?, Option.some.injEq, mk.injEq, true_and]
      rw [@eq_comm _ action]

theorem between?_cons
    (key : String)
    (keys : List String)
    (before after : Option Scalar) :
    between? (key :: keys) before after =
      (between? keys before after).map (under key) := by
  cases before with
  | none => cases after <;> rfl
  | some old =>
      cases after with
      | none => rfl
      | some new =>
          by_cases same : old.sameValue new = true <;>
            simp [between?, same, under]

theorem keys_of_between?_eq_some
    {keys : List String}
    {before after : Option Scalar}
    {change : Change}
    (called : between? keys before after = some change) :
    change.keys = keys := by
  cases before with
  | none =>
      cases after with
      | none => cases called
      | some new =>
          cases called
          rfl
  | some old =>
      cases after with
      | none =>
          cases called
          rfl
      | some new =>
          by_cases same : old.sameValue new = true
          · simp [between?, same] at called
          · simp only [between?, same, Bool.false_eq_true, if_false,
              Option.some.injEq] at called
            rw [← called]

/-- What a change that is called for says of the leaf before and after it. -/
theorem leaves_of_between?
    {keys : List String}
    {before after : Option Scalar}
    {change : Change}
    (called : between? keys before after = some change) :
    match change.action with
    | .add => before = none ∧ after = some change.value
    | .remove => before = some change.value ∧ after = none
    | .replace =>
        ∃ old, before = some old ∧ after = some change.value
          ∧ old.sameValue change.value = false := by
  cases before with
  | none =>
      cases after with
      | none => cases called
      | some new =>
          cases called
          exact ⟨rfl, rfl⟩
  | some old =>
      cases after with
      | none =>
          cases called
          exact ⟨rfl, rfl⟩
      | some new =>
          by_cases same : old.sameValue new = true
          · simp [between?, same] at called
          · simp only [between?, same, Bool.false_eq_true, if_false,
              Option.some.injEq] at called
            subst called
            exact ⟨old, rfl, rfl, Bool.eq_false_iff.mpr same⟩

@[simp]
theorem keys_under (key : String) (change : Change) :
    (change.under key).keys = key :: change.keys :=
  rfl

@[simp]
theorem action_under (key : String) (change : Change) :
    (change.under key).action = change.action :=
  rfl

/--
The first may come before the second: on one way, removals come before
additions.
-/
def Ordered (earlier later : Change) : Prop :=
  Comparable earlier.keys later.keys →
    earlier.action = .remove ∧ later.action = .add

theorem ordered_under_iff
    {key : String}
    {earlier later : Change} :
    Ordered (earlier.under key) (later.under key) ↔ Ordered earlier later := by
  simp [Ordered]

theorem ordered_under_of_ne
    {key name : String}
    (different : key ≠ name)
    (earlier later : Change) :
    Ordered (earlier.under key) (later.under name) := by
  intro comparable
  exact absurd ((Comparable.cons_cons _ _ _ _).mp comparable).1 different

end Change

namespace Document

/-! ## One step of the walk -/

/-- The changes between what there is on two sides, which may be nothing. -/
def changesBetween : Option Document → Option Document → List Change
  | some before, some after => before.changes after
  | some before, none => onLeaves .remove before
  | none, some after => onLeaves .add after
  | none, none => []

theorem changesWithin_eq_flatMap
    (before after : List (String × Document)) :
    changesWithin before after =
      before.flatMap fun entry =>
        (changesBetween (some entry.2) (Keyed.find? entry.1 after)).map
          (Change.under entry.1) := by
  induction before with
  | nil => rfl
  | cons entry rest ih =>
      rcases entry with ⟨key, child⟩
      rw [changesWithin, ih, List.flatMap_cons]
      cases Keyed.find? key after <;> rfl

theorem mem_additions_iff
    {before after : List (String × Document)}
    {change : Change} :
    change ∈ additions before after ↔
      ∃ key child inner,
        (key, child) ∈ after ∧ Keyed.find? key before = none
          ∧ inner ∈ onLeaves .add child ∧ change = inner.under key := by
  rw [additions, List.mem_flatMap]
  constructor
  · rintro ⟨⟨key, child⟩, member, found⟩
    by_cases present : Keyed.contains key before = true
    · simp [present] at found
    · simp only [present, Bool.false_eq_true, if_false] at found
      rcases List.mem_map.mp found with ⟨inner, isInner, rfl⟩
      rw [Keyed.contains_iff, ← Keyed.find?_eq_none_iff] at present
      exact ⟨key, child, inner, member, present, isInner, rfl⟩
  · rintro ⟨key, child, inner, member, absent, isInner, rfl⟩
    have notContained : ¬ Keyed.contains key before = true := by
      rw [Keyed.contains_iff]
      exact Keyed.find?_eq_none_iff.mp absent
    refine ⟨(key, child), member, ?_⟩
    simp only [notContained, Bool.false_eq_true, if_false]
    exact List.mem_map.mpr ⟨inner, isInner, rfl⟩

/--
The changes between two collections are those between their children under each
key.
-/
theorem mem_changes_collection_iff
    {kind otherKind : CollectionKind}
    {before after : List (String × Document)}
    (distinctBefore : (Keyed.keys before).Nodup)
    (distinctAfter : (Keyed.keys after).Nodup)
    {change : Change} :
    change ∈ (collection kind before).changes (collection otherKind after) ↔
      ∃ key inner,
        inner ∈ changesBetween (Keyed.find? key before) (Keyed.find? key after)
          ∧ change = inner.under key := by
  rw [changes, List.mem_append, changesWithin_eq_flatMap, List.mem_flatMap,
    mem_additions_iff]
  constructor
  · rintro (⟨⟨key, child⟩, member, mapped⟩ | ⟨key, child, inner, member, absent,
      isInner, rfl⟩)
    · rcases List.mem_map.mp mapped with ⟨inner, isInner, rfl⟩
      rw [← (Keyed.find?_eq_some_iff distinctBefore).mpr member] at isInner
      exact ⟨key, inner, isInner, rfl⟩
    · refine ⟨key, inner, ?_, rfl⟩
      rw [absent, (Keyed.find?_eq_some_iff distinctAfter).mpr member]
      exact isInner
  · rintro ⟨key, inner, isInner, rfl⟩
    cases isBefore : Keyed.find? key before with
    | some child =>
        rw [isBefore] at isInner
        exact Or.inl
          ⟨(key, child), Keyed.mem_of_find?_eq_some isBefore,
            List.mem_map.mpr ⟨inner, isInner, rfl⟩⟩
    | none =>
        cases isAfter : Keyed.find? key after with
        | none => simp [isBefore, isAfter, changesBetween] at isInner
        | some child =>
            rw [isBefore, isAfter] at isInner
            exact Or.inr
              ⟨key, child, inner, Keyed.mem_of_find?_eq_some isAfter,
                isBefore, isInner, rfl⟩

/-! ## Which changes there are -/

theorem mem_onLeaves_iff
    {document : Document}
    (distinct : document.DistinctKeys)
    {action : Action}
    {change : Change} :
    change ∈ onLeaves action document ↔
      change.action = action
        ∧ document.scalarAt? change.keys = some change.value := by
  rw [onLeaves, List.mem_map]
  constructor
  · rintro ⟨⟨keys, value⟩, leaf, rfl⟩
    exact ⟨rfl, (mem_leaves_iff distinct).mp leaf⟩
  · rintro ⟨rfl, found⟩
    exact
      ⟨(change.keys, change.value), (mem_leaves_iff distinct).mpr found, rfl⟩

/--
Removing one document and adding another, where no leaf of one stands at the
place of the other's.
-/
theorem mem_onLeaves_append_iff
    {source target : Document}
    (distinctSource : source.DistinctKeys)
    (distinctTarget : target.DistinctKeys)
    (apart :
      ∀ keys, source.scalarAt? keys = none ∨ target.scalarAt? keys = none)
    {change : Change} :
    change ∈ onLeaves .remove source ++ onLeaves .add target ↔
      Change.between? change.keys
        (source.scalarAt? change.keys)
        (target.scalarAt? change.keys) = some change := by
  rw [List.mem_append, mem_onLeaves_iff distinctSource,
    mem_onLeaves_iff distinctTarget]
  rcases apart change.keys with absent | absent
  · rw [absent, Change.between?_none_left_iff]
    simp
  · rw [absent, Change.between?_none_right_iff]
    simp

theorem mem_changesBetween_iff
    (before after : Option Document)
    (distinctBefore : ∀ document ∈ before, document.DistinctKeys)
    (distinctAfter : ∀ document ∈ after, document.DistinctKeys)
    (both :
      ∀ source ∈ before, ∀ target ∈ after, ∀ change,
        change ∈ source.changes target ↔
          ¬ Blocked source target change.keys
            ∧ Change.between? change.keys
                (source.scalarAt? change.keys)
                (target.scalarAt? change.keys) = some change)
    (change : Change) :
    change ∈ changesBetween before after ↔
      (¬ ∃ source target,
          before = some source ∧ after = some target
            ∧ Blocked source target change.keys)
        ∧ Change.between? change.keys
            (before.bind (·.scalarAt? change.keys))
            (after.bind (·.scalarAt? change.keys)) = some change := by
  cases before with
  | none =>
      cases after with
      | none => simp [changesBetween, Change.between?]
      | some target =>
          rw [changesBetween, mem_onLeaves_iff (distinctAfter target rfl),
            Option.bind_none, Option.bind_some, Change.between?_none_left_iff]
          simp
  | some source =>
      cases after with
      | none =>
          rw [changesBetween, mem_onLeaves_iff (distinctBefore source rfl),
            Option.bind_none, Option.bind_some, Change.between?_none_right_iff]
          simp
      | some target =>
          rw [changesBetween, both source rfl target rfl]
          simp

/-- Nothing is found where one of the documents is unrecognized. -/
theorem changes_of_unrecognized
    {source target : Document}
    (unrecognized :
      source.isUnrecognized = true ∨ target.isUnrecognized = true) :
    source.changes target = [] := by
  rcases unrecognized with atSource | atTarget
  · rcases exists_eq_unrecognized atSource with ⟨old, rfl⟩
    cases target <;> rfl
  · rcases exists_eq_unrecognized atTarget with ⟨new, rfl⟩
    cases source <;> rfl

/-- Two scalars, or a scalar and a collection, clash nowhere. -/
theorem not_blocked_of_childless
    (source target : Document)
    (childless : ∀ key, source.find? key = none ∨ target.find? key = none)
    (recognizedSource : source.isUnrecognized = false)
    (recognizedTarget : target.isUnrecognized = false)
    (keys : List String) :
    ¬ Blocked source target keys := by
  rw [blocked_iff_of_childless childless, clash_nil_iff]
  simp [recognizedSource, recognizedTarget]

theorem mem_changes_scalar_iff
    {old new : Scalar}
    {change : Change} :
    change ∈ (scalar old).changes (scalar new) ↔
      Change.between? change.keys
        ((scalar old).scalarAt? change.keys)
        ((scalar new).scalarAt? change.keys) = some change := by
  rcases change with ⟨action, keys, value⟩
  rw [changes]
  cases keys with
  | nil =>
      by_cases same : old.sameValue new = true <;>
        simp [same, scalar?, Change.between?, eq_comm]
  | cons key rest =>
      by_cases same : old.sameValue new = true <;>
        simp [same, scalarAt?_cons, Change.between?]

/--
A change is found if and only if its place is not blocked and the change is what
the leaves there call for.
-/
theorem mem_changes_iff
    {source target : Document}
    (distinctSource : source.DistinctKeys)
    (distinctTarget : target.DistinctKeys)
    {change : Change} :
    change ∈ source.changes target ↔
      ¬ Blocked source target change.keys
        ∧ Change.between? change.keys
            (source.scalarAt? change.keys)
            (target.scalarAt? change.keys) = some change := by
  induction source, target, distinctSource, distinctTarget
    using pairInduction generalizing change with
  | unrecognized source target _ _ unrecognized =>
      have blocked : Blocked source target change.keys :=
        blocked_of_clash_nil (clash_nil_iff.mpr unrecognized) _
      simp [changes_of_unrecognized unrecognized, blocked]
  | scalars old new =>
      have free :=
        not_blocked_of_childless (scalar old) (scalar new)
          (fun _ => Or.inl rfl) rfl rfl change.keys
      rw [mem_changes_scalar_iff]
      exact ⟨fun called => ⟨free, called⟩, And.right⟩
  | scalarCollection old kind after distinctSource distinctTarget =>
      have free :=
        not_blocked_of_childless (scalar old) (collection kind after)
          (fun _ => Or.inl rfl) rfl rfl change.keys
      rw [changes, mem_onLeaves_append_iff distinctSource distinctTarget]
      · exact ⟨fun called => ⟨free, called⟩, And.right⟩
      · intro keys
        cases keys with
        | nil => exact Or.inr rfl
        | cons key rest => exact Or.inl (by simp [scalarAt?_cons])
  | collectionScalar kind before new distinctSource distinctTarget =>
      have free :=
        not_blocked_of_childless (collection kind before) (scalar new)
          (fun _ => Or.inr rfl) rfl rfl change.keys
      rw [changes, mem_onLeaves_append_iff distinctSource distinctTarget]
      · exact ⟨fun called => ⟨free, called⟩, And.right⟩
      · intro keys
        cases keys with
        | nil => exact Or.inl rfl
        | cons key rest => exact Or.inr (by simp [scalarAt?_cons])
  | collections kind otherKind before after distinctSource distinctTarget ih =>
      -- what the induction hypothesis says of the children under one key
      have step (key : String) (inner : Change) :=
        mem_changesBetween_iff
          (Keyed.find? key before) (Keyed.find? key after)
          (fun child isBefore => distinctSource.descend isBefore)
          (fun other isAfter => distinctTarget.descend isAfter)
          (fun child isBefore other isAfter change =>
            @ih key child other isBefore isAfter change)
          inner
      have noClash :
          ¬ Clash (collection kind before)
              (collection otherKind after) [] := by
        simp [clash_nil_iff, isUnrecognized]
      rw [mem_changes_collection_iff distinctSource.nodup distinctTarget.nodup]
      constructor
      · rintro ⟨key, inner, isInner, rfl⟩
        rcases (step key inner).mp isInner with ⟨free, called⟩
        constructor
        · rw [Change.keys_under, blocked_cons_iff]
          rintro (clash | blocked)
          · exact noClash clash
          · exact free blocked
        · rw [Change.keys_under, scalarAt?_cons, scalarAt?_cons,
            Change.between?_cons, find?_collection, find?_collection,
            called]
          rfl
      · rintro ⟨free, called⟩
        cases isKeys : change.keys with
        | nil => simp [isKeys, scalar?, Change.between?] at called
        | cons key rest =>
            rw [isKeys, scalarAt?_cons, scalarAt?_cons,
              Change.between?_cons, Option.map_eq_some_iff] at called
            rcases called with ⟨inner, called, rfl⟩
            have sameKeys : inner.keys = rest :=
              Change.keys_of_between?_eq_some called
            subst rest
            refine ⟨key, inner, (step key inner).mpr ⟨?_, called⟩, rfl⟩
            intro blocked
            apply free
            rw [isKeys, blocked_cons_iff]
            exact Or.inr blocked

/-! ## The order of the changes -/

theorem onLeaves_pairwise
    {document : Document}
    (distinct : document.DistinctKeys)
    (action : Action) :
    (onLeaves action document).Pairwise Change.Ordered := by
  rw [onLeaves, List.pairwise_map]
  refine (leaves_pairwise distinct).imp ?_
  intro earlier later apart comparable
  exact absurd comparable apart

theorem onLeaves_append_pairwise
    {source target : Document}
    (distinctSource : source.DistinctKeys)
    (distinctTarget : target.DistinctKeys) :
    (onLeaves .remove source ++ onLeaves .add target).Pairwise
      Change.Ordered := by
  rw [List.pairwise_append]
  refine
    ⟨onLeaves_pairwise distinctSource .remove,
      onLeaves_pairwise distinctTarget .add, ?_⟩
  intro earlier isEarlier later isLater _
  exact
    ⟨((mem_onLeaves_iff distinctSource).mp isEarlier).1,
      ((mem_onLeaves_iff distinctTarget).mp isLater).1⟩

theorem additions_pairwise
    {kind : CollectionKind}
    {before after : List (String × Document)}
    (distinct : (collection kind after).DistinctKeys) :
    (additions before after).Pairwise Change.Ordered := by
  have nodup := distinct.nodup
  rw [additions, List.pairwise_flatMap]
  constructor
  · rintro ⟨key, child⟩ member
    by_cases present : Keyed.contains key before = true
    · simp [present]
    · simp only [present, Bool.false_eq_true, if_false, List.pairwise_map,
        Change.ordered_under_iff]
      exact
        onLeaves_pairwise
          (distinct.descend (distinct.find?_eq_some member)) .add
  · rw [Keyed.keys, List.nodup_iff_pairwise_ne, List.pairwise_map] at nodup
    refine nodup.imp ?_
    rintro ⟨key, child⟩ ⟨name, other⟩ different earlier isEarlier later isLater
    by_cases present : Keyed.contains key before = true
    · simp [present] at isEarlier
    · by_cases otherPresent : Keyed.contains name before = true
      · simp [otherPresent] at isLater
      · simp only [present, otherPresent, Bool.false_eq_true, if_false]
          at isEarlier isLater
        rcases List.mem_map.mp isEarlier with ⟨first, -, rfl⟩
        rcases List.mem_map.mp isLater with ⟨second, -, rfl⟩
        exact Change.ordered_under_of_ne different first second

theorem changesWithin_pairwise
    {kind : CollectionKind}
    {before after : List (String × Document)}
    (distinct : (collection kind before).DistinctKeys)
    (children :
      ∀ key child, Keyed.find? key before = some child →
        (changesBetween (some child) (Keyed.find? key after)).Pairwise
          Change.Ordered) :
    (changesWithin before after).Pairwise Change.Ordered := by
  have nodup := distinct.nodup
  rw [changesWithin_eq_flatMap, List.pairwise_flatMap]
  constructor
  · rintro ⟨key, child⟩ member
    simp only [List.pairwise_map, Change.ordered_under_iff]
    exact children key child (distinct.find?_eq_some member)
  · rw [Keyed.keys, List.nodup_iff_pairwise_ne, List.pairwise_map] at nodup
    refine nodup.imp ?_
    intro entry other different earlier isEarlier later isLater
    rcases List.mem_map.mp isEarlier with ⟨first, -, rfl⟩
    rcases List.mem_map.mp isLater with ⟨second, -, rfl⟩
    exact Change.ordered_under_of_ne different first second

/-- Of two changes on one way, the earlier is a removal and the later an addition. -/
theorem changes_pairwise
    {source target : Document}
    (distinctSource : source.DistinctKeys)
    (distinctTarget : target.DistinctKeys) :
    (source.changes target).Pairwise Change.Ordered := by
  induction source, target, distinctSource, distinctTarget
    using pairInduction with
  | unrecognized source target _ _ unrecognized =>
      rw [changes_of_unrecognized unrecognized]
      exact List.Pairwise.nil
  | scalars old new =>
      rw [changes]
      split
      · exact List.Pairwise.nil
      · exact List.pairwise_singleton _ _
  | scalarCollection old kind after distinctSource distinctTarget =>
      rw [changes]
      exact onLeaves_append_pairwise distinctSource distinctTarget
  | collectionScalar kind before new distinctSource distinctTarget =>
      rw [changes]
      exact onLeaves_append_pairwise distinctSource distinctTarget
  | collections kind otherKind before after distinctSource distinctTarget ih =>
      rw [changes, List.pairwise_append]
      refine
        ⟨changesWithin_pairwise distinctSource ?_,
          additions_pairwise distinctTarget, ?_⟩
      · intro key child isBefore
        cases isAfter : Keyed.find? key after with
        | none => exact onLeaves_pairwise (distinctSource.descend isBefore) .remove
        | some other => exact ih key child other isBefore isAfter
      · -- additions stand under keys that are not there before
        intro earlier isEarlier later isLater
        rw [changesWithin_eq_flatMap, List.mem_flatMap] at isEarlier
        rcases isEarlier with ⟨⟨key, child⟩, member, mapped⟩
        rcases List.mem_map.mp mapped with ⟨first, -, rfl⟩
        rcases mem_additions_iff.mp isLater with
          ⟨name, other, second, -, absent, -, rfl⟩
        apply Change.ordered_under_of_ne
        rintro rfl
        exact
          Keyed.find?_eq_none_iff.mp absent (Keyed.mem_keys_of_mem member)

end Document

end LeafPatch
