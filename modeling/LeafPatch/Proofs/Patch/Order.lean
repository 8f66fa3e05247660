import LeafPatch.Proofs.Document.Ranking
import LeafPatch.Proofs.Patch.Exactness
import Mathlib.Data.List.Basic

/-!
# The order of changes

Two changes of one patch either stand on one way, and then they are a removal
and an addition, in this order, or their ways part at some place.  There the
order of the changes is that of the keys under which they go on: first the keys
of the source in its order, then those that only the target has in its order.

The walk over two collections is therefore written as one walk over their ranked
keys.  A collection that is added or removed as a whole is such a walk as well,
with no keys on the other side, and the order of a whole patch follows by
induction over the two documents.
-/

namespace LeafPatch

theorem flatMap_filter
    {Item Result : Type}
    (keep : Item → Bool)
    (expand : Item → List Result)
    (list : List Item) :
    (list.filter keep).flatMap expand =
      list.flatMap fun item => if keep item then expand item else [] := by
  induction list with
  | nil => rfl
  | cons head rest ih =>
      rw [List.filter_cons, List.flatMap_cons, ← ih]
      cases keep head <;> simp

namespace Document

/-! ## One walk over ranked keys -/

/-- The changes between what two documents have under a key. -/
def changesUnder (source target : Option Document) (key : String) : List Change :=
  changesBetween (source.bind (·.find? key)) (target.bind (·.find? key))

theorem changesWithin_eq_flatMap_keys
    {before after : List (String × Document)}
    (nodup : (Keyed.keys before).Nodup) :
    changesWithin before after =
      (Keyed.keys before).flatMap fun key =>
        (changesBetween (Keyed.find? key before) (Keyed.find? key after)).map
          (Change.under key) := by
  rw [changesWithin_eq_flatMap, Keyed.keys, List.flatMap_map]
  apply List.flatMap_congr
  intro entry member
  rw [(Keyed.find?_eq_some_iff nodup).mpr member]

theorem additions_eq_flatMap_keys
    {before after : List (String × Document)}
    (nodup : (Keyed.keys after).Nodup) :
    additions before after =
      ((Keyed.keys after).filter fun key => key ∉ Keyed.keys before).flatMap
        fun key =>
          (changesBetween (Keyed.find? key before) (Keyed.find? key after)).map
            (Change.under key) := by
  rw [additions, flatMap_filter,
    show Keyed.keys after = after.map Prod.fst from rfl, List.flatMap_map]
  apply List.flatMap_congr
  intro entry member
  rw [(Keyed.find?_eq_some_iff nodup).mpr member]
  by_cases present : entry.1 ∈ Keyed.keys before
  · simp [Keyed.contains_iff.mpr present, present]
  · have absent := Keyed.find?_eq_none_iff.mpr present
    simp [Keyed.contains, absent, present, changesBetween]

/-- Two collections are walked along their ranked keys. -/
theorem changes_collection_eq_flatMap
    {kind otherKind : CollectionKind}
    {before after : List (String × Document)}
    (nodup : (Keyed.keys before).Nodup)
    (otherNodup : (Keyed.keys after).Nodup) :
    (collection kind before).changes (collection otherKind after) =
      (rankedAt (some (collection kind before))
          (some (collection otherKind after)) []).flatMap
        fun key =>
          (changesUnder (some (collection kind before))
            (some (collection otherKind after)) key).map (Change.under key) := by
  rw [changes, changesWithin_eq_flatMap_keys nodup,
    additions_eq_flatMap_keys otherNodup, ← List.flatMap_append]
  rfl

/-- The leaves of a collection are listed along its keys. -/
theorem onLeaves_collection_eq_flatMap
    (action : Action)
    {kind : CollectionKind}
    {entries : List (String × Document)}
    (nodup : (Keyed.keys entries).Nodup) :
    onLeaves action (collection kind entries) =
      (rankedAt (some (collection kind entries)) none []).flatMap
        fun key =>
          ((Keyed.find? key entries).elim [] (onLeaves action)).map
            (Change.under key) := by
  rw [rankedAt, keysAt_none, rankedKeys_nil_right, keysAt_collection_nil,
    Keyed.keys, List.flatMap_map, onLeaves, leaves, leavesWithin_eq_flatMap,
    List.map_flatMap]
  apply List.flatMap_congr
  intro entry member
  rw [(Keyed.find?_eq_some_iff nodup).mpr member]
  simp [onLeaves, Function.comp_def, Change.ofLeaf, Change.under]

/-! ## Changes in order -/

/--
Where the ways of two changes part, the earlier one goes on under the key that
is ranked before the other's.
-/
def InOrder (source target : Option Document) (earlier later : Change) : Prop :=
  ∀ place key name, PartAt earlier.keys later.keys place key name →
    Precedes (rankedAt source target place) key name

theorem inOrder_under
    {source target : Option Document}
    {key : String}
    {earlier later : Change}
    (inOrder :
      InOrder (source.bind (·.find? key)) (target.bind (·.find? key))
        earlier later) :
    InOrder source target (earlier.under key) (later.under key) := by
  intro place first second part
  rcases PartAt.cons_cons_iff.mp part with
    ⟨-, rfl, rfl, different⟩ | ⟨below, rfl, -, part⟩
  · exact absurd rfl different
  · rw [rankedAt, keysAt_cons, keysAt_cons]
    exact inOrder below first second part

theorem inOrder_under_of_precedes
    {source target : Option Document}
    {key name : String}
    (different : key ≠ name)
    (precedes : Precedes (rankedAt source target []) key name)
    (earlier later : Change) :
    InOrder source target (earlier.under key) (later.under name) := by
  intro place first second part
  rcases PartAt.cons_cons_iff.mp part with
    ⟨rfl, rfl, rfl, -⟩ | ⟨-, -, same, -⟩
  · exact precedes
  · exact absurd same different

/-- A walk along ranked keys is in order if it is in order under each of them. -/
theorem pairwise_flatMap_under
    {source target : Option Document}
    {below : String → List Change}
    (nodup : (rankedAt source target []).Nodup)
    (children :
      ∀ key ∈ rankedAt source target [],
        (below key).Pairwise
          (InOrder (source.bind (·.find? key)) (target.bind (·.find? key)))) :
    ((rankedAt source target []).flatMap fun key =>
      (below key).map (Change.under key)).Pairwise (InOrder source target) := by
  rw [List.pairwise_flatMap]
  constructor
  · intro key member
    rw [List.pairwise_map]
    exact (children key member).imp inOrder_under
  · rw [List.pairwise_iff_forall_sublist]
    intro key name precedes earlier isEarlier later isLater
    rcases List.mem_map.mp isEarlier with ⟨first, -, rfl⟩
    rcases List.mem_map.mp isLater with ⟨second, -, rfl⟩
    exact
      inOrder_under_of_precedes (Precedes.ne nodup precedes) precedes first second

theorem onLeaves_inOrder
    (action : Action)
    {document : Document}
    (distinct : document.DistinctKeys) :
    (onLeaves action document).Pairwise (InOrder (some document) none) := by
  induction document with
  | scalar value => exact List.pairwise_singleton _ _
  | unrecognized value => exact List.Pairwise.nil
  | collection kind entries ih =>
      rw [onLeaves_collection_eq_flatMap action distinct.nodup]
      apply pairwise_flatMap_under
      · exact nodup_rankedKeys (nodup_keysAt distinct []) List.nodup_nil
      · intro key _
        show
          ((Keyed.find? key entries).elim [] (onLeaves action)).Pairwise
            (InOrder (Keyed.find? key entries) none)
        cases isChild : Keyed.find? key entries with
        | none => exact List.Pairwise.nil
        | some child =>
            exact
              ih key child (Keyed.mem_of_find?_eq_some isChild)
                (distinct.descend isChild)

/-- The keys on one side alone rank alike on either. -/
theorem inOrder_none_left_iff
    {document : Option Document}
    {earlier later : Change} :
    InOrder none document earlier later ↔ InOrder document none earlier later := by
  simp only [InOrder, rankedAt, keysAt_none, rankedKeys_nil_left,
    rankedKeys_nil_right]

/-- Beside a scalar, keys rank as beside nothing. -/
theorem inOrder_scalar_left_iff
    {value : Scalar}
    {document : Option Document}
    {earlier later : Change} :
    InOrder (some (scalar value)) document earlier later ↔
      InOrder document none earlier later := by
  rw [← inOrder_none_left_iff]
  simp only [InOrder, rankedAt, keysAt_none, keysAt_scalar]

theorem inOrder_scalar_right_iff
    {value : Scalar}
    {document : Option Document}
    {earlier later : Change} :
    InOrder document (some (scalar value)) earlier later ↔
      InOrder document none earlier later := by
  simp only [InOrder, rankedAt, keysAt_none, keysAt_scalar]

/-- No way parts from that of a change to the root. -/
theorem keys_eq_nil_of_mem_onLeaves_scalar
    {action : Action}
    {value : Scalar}
    {change : Change}
    (found : change ∈ onLeaves action (scalar value)) :
    change.keys = [] := by
  rw [onLeaves, leaves, List.map_singleton, List.mem_singleton] at found
  subst found
  rfl

theorem changes_inOrder
    {source target : Document}
    (distinctSource : source.DistinctKeys)
    (distinctTarget : target.DistinctKeys) :
    (source.changes target).Pairwise (InOrder (some source) (some target)) := by
  induction source, target, distinctSource, distinctTarget
    using pairInduction with
  | unrecognized source target _ _ unrecognized =>
      rw [changes_of_unrecognized unrecognized]
      exact List.Pairwise.nil
  | scalars old new =>
      rw [changes]
      split
      · exact List.Pairwise.nil
      · exact List.pairwise_singleton _ _
  | scalarCollection old kind after distinctSource distinctTarget =>
      rw [changes, List.pairwise_append]
      refine ⟨List.pairwise_singleton _ _, ?_, ?_⟩
      · exact
          (onLeaves_inOrder .add distinctTarget).imp
            inOrder_scalar_left_iff.mpr
      · intro earlier isEarlier later _ place key name part
        rw [keys_eq_nil_of_mem_onLeaves_scalar isEarlier] at part
        exact absurd part PartAt.not_nil_left
  | collectionScalar kind before new distinctSource distinctTarget =>
      rw [changes, List.pairwise_append]
      refine ⟨?_, List.pairwise_singleton _ _, ?_⟩
      · exact
          (onLeaves_inOrder .remove distinctSource).imp
            inOrder_scalar_right_iff.mpr
      · intro earlier _ later isLater place key name part
        rw [keys_eq_nil_of_mem_onLeaves_scalar isLater] at part
        exact absurd part.symm PartAt.not_nil_left
  | collections kind otherKind before after distinctSource distinctTarget ih =>
      rw [changes_collection_eq_flatMap distinctSource.nodup distinctTarget.nodup]
      apply pairwise_flatMap_under
      · exact
          nodup_rankedKeys (nodup_keysAt distinctSource [])
            (nodup_keysAt distinctTarget [])
      · intro key _
        show
          (changesBetween (Keyed.find? key before) (Keyed.find? key after)).Pairwise
            (InOrder (Keyed.find? key before) (Keyed.find? key after))
        cases isBefore : Keyed.find? key before with
        | none =>
            cases isAfter : Keyed.find? key after with
            | none => exact List.Pairwise.nil
            | some other =>
                exact
                  (onLeaves_inOrder .add (distinctTarget.descend isAfter)).imp
                    inOrder_none_left_iff.mpr
        | some child =>
            cases isAfter : Keyed.find? key after with
            | none =>
                exact onLeaves_inOrder .remove (distinctSource.descend isBefore)
            | some other => exact ih key child other isBefore isAfter

/-! ## The order of two changes -/

/-- Below a place without a collection there are no leaves. -/
theorem scalarAt?_eq_none_of_collectionAt?
    {document : Document}
    {place : List String}
    (absent : document.collectionAt? place = none)
    (key : String)
    (rest : List String) :
    document.scalarAt? (place ++ key :: rest) = none := by
  rw [scalarAt?, follow?_append]
  cases found : document.follow? place with
  | none => rfl
  | some node =>
      cases node with
      | scalar value => rfl
      | unrecognized value => rfl
      | collection kind entries =>
          simp [collectionAt?, found, Collection.ofDocument?] at absent

section TwoChanges

variable
    {source target : Document}
    (distinctSource : source.DistinctKeys)
    (distinctTarget : target.DistinctKeys)
    {place : List String}

include distinctSource distinctTarget

theorem action_eq_remove_of_collectionAt?
    {change : Change}
    (found : change ∈ source.changes target)
    (absent : target.collectionAt? place = none)
    {key : String}
    {rest : List String}
    (isPlace : change.keys = place ++ key :: rest) :
    change.action = .remove := by
  rcases (mem_changes_iff distinctSource distinctTarget).mp found with
    ⟨-, called⟩
  rw [isPlace, scalarAt?_eq_none_of_collectionAt? absent, ← isPlace,
    Change.between?_none_right_iff] at called
  exact called.1

theorem action_eq_add_of_collectionAt?
    {change : Change}
    (found : change ∈ source.changes target)
    (absent : source.collectionAt? place = none)
    {key : String}
    {rest : List String}
    (isPlace : change.keys = place ++ key :: rest) :
    change.action = .add := by
  rcases (mem_changes_iff distinctSource distinctTarget).mp found with
    ⟨-, called⟩
  rw [isPlace, scalarAt?_eq_none_of_collectionAt? absent, ← isPlace,
    Change.between?_none_left_iff] at called
  exact called.1

/-- Where the ways of two changes part, the order of the keys decides. -/
theorem precedes_changes_iff
    {first second : Change}
    (isFirst : first ∈ source.changes target)
    (isSecond : second ∈ source.changes target)
    {key name : String}
    (part : PartAt first.keys second.keys place key name) :
    Precedes (source.changes target) first second ↔
      Precedes (rankedAt (some source) (some target) place) key name := by
  have inOrder := changes_inOrder distinctSource distinctTarget
  rw [List.pairwise_iff_forall_sublist] at inOrder
  constructor
  · intro precedes
    exact inOrder precedes place key name part
  · intro ranked
    have different : first ≠ second := by
      rintro rfl
      rcases part with ⟨rest, others, isLeft, isRight, apart⟩
      rw [isLeft] at isRight
      simp [apart] at isRight
    have nodup :=
      nodup_rankedKeys (nodup_keysAt distinctSource place)
        (nodup_keysAt distinctTarget place)
    rcases Precedes.total isFirst isSecond different with precedes | back
    · exact precedes
    · exact
        absurd (inOrder back place name key part.symm)
          (Precedes.asymm nodup ranked)

/-- Of two changes on one way, the first is a removal and the second an addition. -/
theorem ordered_of_precedes
    {first second : Change}
    (precedes : Precedes (source.changes target) first second) :
    Change.Ordered first second :=
  List.pairwise_iff_forall_sublist.mp
    (changes_pairwise distinctSource distinctTarget) precedes

end TwoChanges

/--
How the order of two changes is decided at the place where their ways part, by
the collections that the two documents have there.  If both have one, their
ranked keys decide.  If only one has, its own keys decide, and both changes are
removals or additions.
-/
def DecidedBy
    (changes : List Change)
    (first second : Change)
    (key name : String) :
    Option Collection → Option Collection → Prop
  | some before, some after =>
      Precedes changes first second ↔
        Precedes (rankedKeys before.keys after.keys) key name
  | some before, none =>
      first.action = .remove ∧ second.action = .remove
        ∧ (Precedes changes first second ↔ Precedes before.keys key name)
  | none, some after =>
      first.action = .add ∧ second.action = .add
        ∧ (Precedes changes first second ↔ Precedes after.keys key name)
  | none, none => False

/--
The order of the operations of a patch, each of which says what its change does
and where.  Of two changes on one way, one is a removal, the other an addition,
and the removal comes first.  The ways of any two others part at some place, and
there the order of the keys decides.
-/
theorem patchTo_ordered
    (source target : Document)
    (options : Options)
    (distinctSource : source.DistinctKeys)
    (distinctTarget : target.DistinctKeys) :
    let changes := source.changes target
    (source.patchTo target options).operations =
        changes.map (fun change =>
          { action := change.action
            path :=
              Pointer.descend options.pointerStyle options.basePath change.keys
            value := scalar change.value })
      ∧ changes.Nodup
      ∧ ∀ first ∈ changes, ∀ second ∈ changes, first ≠ second →
          (Comparable first.keys second.keys →
              (Precedes changes first second
                  ∧ first.action = .remove ∧ second.action = .add)
                ∨ (Precedes changes second first
                  ∧ second.action = .remove ∧ first.action = .add))
            ∧ (¬ Comparable first.keys second.keys →
              ∃ place key name,
                PartAt first.keys second.keys place key name
                  ∧ DecidedBy changes first second key name
                      (source.collectionAt? place)
                      (target.collectionAt? place)) := by
  intro changes
  refine
    ⟨patchTo_operations source target options,
      nodup_changes distinctSource distinctTarget, ?_⟩
  intro first isFirst second isSecond different
  constructor
  · intro comparable
    rcases Precedes.total isFirst isSecond different with precedes | back
    · exact
        Or.inl
          ⟨precedes,
            ordered_of_precedes distinctSource distinctTarget precedes
              comparable⟩
    · exact
        Or.inr
          ⟨back,
            ordered_of_precedes distinctSource distinctTarget back
              comparable.symm⟩
  · intro apart
    rcases PartAt.exists_of_not_comparable apart with ⟨place, key, name, part⟩
    refine ⟨place, key, name, part, ?_⟩
    have decided :=
      precedes_changes_iff distinctSource distinctTarget isFirst isSecond part
    rcases part with ⟨rest, others, isLeft, isRight, -⟩
    cases inSource : source.collectionAt? place with
    | some before =>
        cases inTarget : target.collectionAt? place with
        | some after =>
            show
              Precedes changes first second ↔
                Precedes (rankedKeys before.keys after.keys) key name
            simpa [rankedAt, keysAt, inSource, inTarget] using decided
        | none =>
            refine
              ⟨action_eq_remove_of_collectionAt? distinctSource distinctTarget
                  isFirst inTarget isLeft,
                action_eq_remove_of_collectionAt? distinctSource distinctTarget
                  isSecond inTarget isRight, ?_⟩
            simpa [rankedAt, keysAt, inSource, inTarget] using decided
    | none =>
        have isAddition :=
          action_eq_add_of_collectionAt? distinctSource distinctTarget isFirst
            inSource isLeft
        cases inTarget : target.collectionAt? place with
        | some after =>
            refine
              ⟨isAddition,
                action_eq_add_of_collectionAt? distinctSource distinctTarget
                  isSecond inSource isRight, ?_⟩
            simpa [rankedAt, keysAt, inSource, inTarget] using decided
        | none =>
            -- a change stands below a collection of one of the documents
            have isRemoval :=
              action_eq_remove_of_collectionAt? distinctSource distinctTarget
                isFirst inTarget isLeft
            rw [isAddition] at isRemoval
            cases isRemoval

/--
A field that only the inner object of the target has is added before the next
field of the outer source is changed.
-/
theorem patchTo_ordered_innerAddition :
    let before :=
      collection .mapping
        [("a", collection .mapping [("x", ofText "1")]), ("b", ofText "2")]
    let after :=
      collection .mapping
        [("b", ofText "3"),
          ("a", collection .mapping [("y", ofText "4"), ("x", ofText "1")])]
    let inner : Change := ⟨.add, ["a", "y"], .text "4"⟩
    let outer : Change := ⟨.replace, ["b"], .text "3"⟩
    before.DistinctKeys ∧ after.DistinctKeys
      ∧ (before.patchTo after Options.default).operations =
          [⟨.add, "/a/y", ofText "4"⟩, ⟨.replace, "/b", ofText "3"⟩]
      ∧ inner ∈ before.changes after ∧ outer ∈ before.changes after
      ∧ inner ≠ outer
      ∧ ¬ Comparable inner.keys outer.keys
      ∧ ∃ place key name,
          PartAt inner.keys outer.keys place key name
            ∧ DecidedBy (before.changes after) inner outer key name
                (before.collectionAt? place) (after.collectionAt? place) := by
  intro before after inner outer
  have distinctBefore : before.DistinctKeys := by
    simp [before, ofText, DistinctKeys, DistinctKeysWithin, Keyed.keys]
  have distinctAfter : after.DistinctKeys := by
    simp [after, ofText, DistinctKeys, DistinctKeysWithin, Keyed.keys]
  have isChanges : before.changes after = [inner, outer] := rfl
  have apart : ¬ Comparable inner.keys outer.keys := by
    simp [inner, outer]
  rcases patchTo_ordered before after Options.default distinctBefore distinctAfter with
    ⟨operations, -, ordered⟩
  have isInner : inner ∈ before.changes after := by simp [isChanges]
  have isOuter : outer ∈ before.changes after := by simp [isChanges]
  have different : inner ≠ outer := by simp [inner, outer]
  exact
    ⟨distinctBefore, distinctAfter, operations, isInner, isOuter, different,
      apart, (ordered inner isInner outer isOuter different).2 apart⟩

end Document

end LeafPatch
