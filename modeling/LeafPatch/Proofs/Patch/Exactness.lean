import LeafPatch.Patch.Draft
import LeafPatch.Proofs.Patch.Walk
import Mathlib.Data.List.Nodup

/-!
# Exactness of patches

A patch says of every place what there is to say, once.  For a place that is not
blocked it has exactly the operation that the leaves there call for, a removal,
an addition or a replacement, and none if they agree.  For a blocked place it
has none.  Since its operations are the located changes of the walk, it has no
others.
-/

namespace LeafPatch.Document

theorem patchTo_operations
    (source target : Document)
    (options : Options) :
    (source.patchTo target options).operations =
      (source.changes target).map
        (Change.locate options.pointerStyle options.basePath) :=
  rfl

theorem status_patchTo
    (source target : Document)
    (options : Options) :
    (source.patchTo target options).status = source.comparisonStatus target :=
  Status.ok_merge _

/-- No place is changed twice. -/
theorem nodup_keys_changes
    {source target : Document}
    (distinctSource : source.DistinctKeys)
    (distinctTarget : target.DistinctKeys) :
    ((source.changes target).map Change.keys).Nodup := by
  rw [List.nodup_iff_pairwise_ne, List.pairwise_map]
  refine (changes_pairwise distinctSource distinctTarget).imp_of_mem ?_
  intro earlier later isEarlier isLater ordered sameKeys
  -- both are what the leaves at one place call for, hence they are the same
  have called := ((mem_changes_iff distinctSource distinctTarget).mp isEarlier).2
  have alsoCalled := ((mem_changes_iff distinctSource distinctTarget).mp isLater).2
  rw [sameKeys, alsoCalled] at called
  rcases ordered (by simp [sameKeys, Comparable]) with ⟨isRemoval, isAddition⟩
  rw [← Option.some.inj called, isAddition] at isRemoval
  cases isRemoval

theorem nodup_changes
    {source target : Document}
    (distinctSource : source.DistinctKeys)
    (distinctTarget : target.DistinctKeys) :
    (source.changes target).Nodup :=
  List.Nodup.of_map Change.keys
    (nodup_keys_changes distinctSource distinctTarget)

theorem filter_changes_of_blocked
    {source target : Document}
    (distinctSource : source.DistinctKeys)
    (distinctTarget : target.DistinctKeys)
    {keys : List String}
    (blocked : Blocked source target keys) :
    (source.changes target).filter (fun change => change.keys = keys) = [] := by
  rw [List.filter_eq_nil_iff]
  intro change found atPlace
  rw [decide_eq_true_eq] at atPlace
  subst atPlace
  exact ((mem_changes_iff distinctSource distinctTarget).mp found).1 blocked

/-- At a place that is not blocked there is what the leaves there call for. -/
theorem filter_changes_of_not_blocked
    {source target : Document}
    (distinctSource : source.DistinctKeys)
    (distinctTarget : target.DistinctKeys)
    {keys : List String}
    (free : ¬ Blocked source target keys) :
    (source.changes target).filter (fun change => change.keys = keys) =
      (Change.between? keys
        (source.scalarAt? keys) (target.scalarAt? keys)).toList := by
  have member (change : Change) :
      change ∈ (source.changes target).filter
          (fun change => change.keys = keys) ↔
        Change.between? keys
          (source.scalarAt? keys) (target.scalarAt? keys) = some change := by
    rw [List.mem_filter, decide_eq_true_eq,
      mem_changes_iff distinctSource distinctTarget]
    constructor
    · rintro ⟨⟨-, called⟩, rfl⟩
      exact called
    · intro called
      have sameKeys := Change.keys_of_between?_eq_some called
      rw [sameKeys]
      exact ⟨⟨free, called⟩, rfl⟩
  cases called :
      Change.between? keys (source.scalarAt? keys) (target.scalarAt? keys) with
  | none =>
      rw [Option.toList_none, List.eq_nil_iff_forall_not_mem]
      intro change found
      cases called.symm.trans ((member change).mp found)
  | some change =>
      have nodup :=
        (nodup_changes distinctSource distinctTarget).filter
          (fun change => decide (change.keys = keys))
      refine
        ((List.perm_ext_iff_of_nodup nodup (by simp)).mpr ?_).eq_singleton
      intro other
      rw [member, called, List.mem_singleton, Option.some.injEq, eq_comm]

/--
The operations of a patch are changes of leaves: each has the action, the scalar
and the pointer of its change.  At a blocked place there is no change.  At any
other place there is exactly the one that the leaves call for: a removal where
only the source has a leaf, an addition where only the target has one, a
replacement where both have leaves of different value, and none where they agree.
-/
theorem patchTo_exact
    (source target : Document)
    (options : Options)
    (distinctSource : source.DistinctKeys)
    (distinctTarget : target.DistinctKeys) :
    (source.patchTo target options).operations =
        (source.changes target).map (fun change =>
          { action := change.action
            path :=
              Pointer.descend options.pointerStyle options.basePath change.keys
            value := scalar change.value })
      ∧ (∀ keys, Blocked source target keys →
          (source.changes target).filter
            (fun change => change.keys = keys) = [])
      ∧ ∀ keys, ¬ Blocked source target keys →
          (source.changes target).filter
              (fun change => change.keys = keys) =
            (Change.between? keys
              (source.scalarAt? keys) (target.scalarAt? keys)).toList := by
  refine ⟨patchTo_operations source target options, ?_, ?_⟩
  · intro keys blocked
    exact filter_changes_of_blocked distinctSource distinctTarget blocked
  · intro keys free
    exact filter_changes_of_not_blocked distinctSource distinctTarget free

/--
A collection that gives way to a scalar, beside a null that stays out of the
patch.
-/
theorem patchTo_exact_shapeChange :
    let before :=
      collection .mapping
        [("a", collection .sequence [("0", ofText "x")]),
          ("n", unrecognized .null)]
    let after :=
      collection .mapping [("a", ofText "y"), ("n", ofText "z")]
    before.DistinctKeys ∧ after.DistinctKeys
      ∧ (before.patchTo after Options.default).operations =
          [⟨.remove, "/a/0", scalar (.text "x")⟩,
            ⟨.add, "/a", scalar (.text "y")⟩]
      ∧ (before.changes after).filter
            (fun change => change.keys = ["a", "0"]) =
          [⟨.remove, ["a", "0"], .text "x"⟩]
      ∧ (before.changes after).filter (fun change => change.keys = ["n"]) =
          [] := by
  intro before after
  have distinctBefore : before.DistinctKeys := by
    simp [before, ofText, DistinctKeys, DistinctKeysWithin, Keyed.keys]
  have distinctAfter : after.DistinctKeys := by
    simp [after, ofText, DistinctKeys, DistinctKeysWithin, Keyed.keys]
  rcases patchTo_exact before after Options.default distinctBefore distinctAfter with
    ⟨operations, blocked, free⟩
  refine ⟨distinctBefore, distinctAfter, operations, ?_, blocked ["n"] ?_⟩
  · rw [free ["a", "0"] ?_]
    · rfl
    · simp [before, after, ofText, blocked_cons_iff, clash_nil_iff,
        isUnrecognized, Keyed.find?]
  · simp [before, after, ofText, blocked_cons_iff, blocked_nil_iff,
      clash_nil_iff, isUnrecognized, Keyed.find?]

end LeafPatch.Document
