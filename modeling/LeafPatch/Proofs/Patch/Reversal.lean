import LeafPatch.Proofs.Patch.Exactness
import LeafPatch.Proofs.Patch.Severity
import Mathlib.Data.List.Forall2

/-!
# The way back

The patch from the target to the source undoes the patch from the source to the
target.  The two are not emitted in opposite orders, since each follows the keys
of its own source first, so the statement is about operations up to their order.

What a leaf calls for in one direction determines what it calls for in the
other.  As the changes of a walk are exactly what the leaves call for, no
induction over the documents is needed here.
-/

namespace LeafPatch

/-- The same severities are reached by one status and the other. -/
theorem Status.eq_of_le_code_iff
    {left right : Status}
    (anySeverity : 1 ≤ left.code ↔ 1 ≤ right.code)
    (worst : 2 ≤ left.code ↔ 2 ≤ right.code) :
    left = right := by
  cases left <;> cases right <;> simp [code] at anySeverity worst ⊢

namespace Change

/-- The change that undoes another, given the leaf that was there before it. -/
def reversed (before : Option Scalar) (change : Change) : Change :=
  match change.action, before with
  | .add, _ => ⟨.remove, change.keys, change.value⟩
  | .remove, _ => ⟨.add, change.keys, change.value⟩
  | .replace, some old => ⟨.replace, change.keys, old⟩
  | .replace, none => change

@[simp]
theorem keys_reversed (before : Option Scalar) (change : Change) :
    (change.reversed before).keys = change.keys := by
  rcases change with ⟨action, keys, value⟩
  cases action <;> cases before <;> rfl

/-- The leaves seen the other way round call for the change that undoes. -/
theorem between?_swap
    {keys : List String}
    {before after : Option Scalar}
    {change : Change}
    (called : between? keys before after = some change) :
    between? keys after before = some (change.reversed before) := by
  cases before with
  | none =>
      cases after with
      | none => cases called
      | some new =>
          cases called
          rfl
  | some old =>
      cases after with
      | none =>
          cases called
          rfl
      | some new =>
          by_cases same : old.sameValue new = true
          · simp [between?, same] at called
          · simp only [between?, same, Bool.false_eq_true, if_false,
              Option.some.injEq] at called
            subst called
            simp [between?, new.sameValue_comm old, same, reversed]

theorem reversed_reversed
    {keys : List String}
    {before after : Option Scalar}
    {change : Change}
    (called : between? keys before after = some change) :
    (change.reversed before).reversed after = change := by
  have twice := between?_swap (between?_swap called)
  rw [called] at twice
  exact (Option.some.inj twice).symm

end Change

namespace Document

theorem blocked_comm
    {source target : Document}
    {keys : List String} :
    Blocked source target keys ↔ Blocked target source keys := by
  suffices oneWay :
      ∀ left right : Document,
        Blocked left right keys → Blocked right left keys from
    ⟨oneWay source target, oneWay target source⟩
  rintro left right
    ⟨stop, above, before, after, isBefore, isAfter, unrecognized⟩
  exact ⟨stop, above, after, before, isAfter, isBefore, unrecognized.symm⟩

section Swap

variable
    {source target : Document}
    (distinctSource : source.DistinctKeys)
    (distinctTarget : target.DistinctKeys)

include distinctSource distinctTarget

theorem comparisonStatus_comm :
    target.comparisonStatus source = source.comparisonStatus target := by
  apply Status.eq_of_le_code_iff
  · rw [one_le_code_comparisonStatus_iff distinctTarget distinctSource,
      one_le_code_comparisonStatus_iff distinctSource distinctTarget]
    exact or_comm
  · rw [two_le_code_comparisonStatus_iff distinctTarget distinctSource,
      two_le_code_comparisonStatus_iff distinctSource distinctTarget]
    simp only [@unmatchedEither_symm target source]

theorem reversed_mem_changes
    {change : Change}
    (found : change ∈ source.changes target) :
    change.reversed (source.scalarAt? change.keys) ∈
      target.changes source := by
  rcases (mem_changes_iff distinctSource distinctTarget).mp found with
    ⟨free, called⟩
  rw [mem_changes_iff distinctTarget distinctSource, Change.keys_reversed]
  constructor
  · intro blocked
    exact free (blocked_comm.mp blocked)
  · exact Change.between?_swap called

/-- Undoing each change gives the changes of the way back, in some order. -/
theorem map_reversed_perm :
    ((source.changes target).map fun change =>
        change.reversed (source.scalarAt? change.keys)).Perm
      (target.changes source) := by
  have nodup :
      ((source.changes target).map fun change =>
        change.reversed (source.scalarAt? change.keys)).Nodup := by
    apply List.Nodup.of_map Change.keys
    have keysKept :
        (Change.keys ∘ fun change : Change =>
          change.reversed (source.scalarAt? change.keys)) =
            Change.keys := by
      funext change
      exact Change.keys_reversed _ change
    rw [List.map_map, keysKept]
    exact nodup_keys_changes distinctSource distinctTarget
  apply
    (List.perm_ext_iff_of_nodup nodup
      (nodup_changes distinctTarget distinctSource)).mpr
  intro change
  rw [List.mem_map]
  constructor
  · rintro ⟨forward, found, rfl⟩
    exact reversed_mem_changes distinctSource distinctTarget found
  · intro found
    refine
      ⟨change.reversed (target.scalarAt? change.keys),
        reversed_mem_changes distinctTarget distinctSource found, ?_⟩
    rw [Change.keys_reversed]
    exact
      Change.reversed_reversed
        ((mem_changes_iff distinctTarget distinctSource).mp found).2

end Swap

end Document

/--
One change undoes another between two documents: an addition is undone by the
removal of its value, and a removal by an addition.  A replacement is undone by
the replacement with the leaf of the source.
-/
inductive Change.UndoneBy (source target : Document) :
    Change → Change → Prop where
  | addition (keys : List String) (value : Scalar) :
      UndoneBy source target ⟨.add, keys, value⟩ ⟨.remove, keys, value⟩
  | removal (keys : List String) (value : Scalar) :
      UndoneBy source target ⟨.remove, keys, value⟩ ⟨.add, keys, value⟩
  | replacement
      (keys : List String)
      (old new : Scalar)
      (isOld : source.scalarAt? keys = some old)
      (isNew : target.scalarAt? keys = some new) :
      UndoneBy source target ⟨.replace, keys, new⟩ ⟨.replace, keys, old⟩

namespace Document

theorem undoneBy_reversed
    {source target : Document}
    (distinctSource : source.DistinctKeys)
    (distinctTarget : target.DistinctKeys)
    {change : Change}
    (found : change ∈ source.changes target) :
    Change.UndoneBy source target change
      (change.reversed (source.scalarAt? change.keys)) := by
  rcases (mem_changes_iff distinctSource distinctTarget).mp found with
    ⟨-, called⟩
  have leaves := Change.leaves_of_between? called
  rcases change with ⟨action, keys, value⟩
  cases action with
  | add => exact .addition keys value
  | remove => exact .removal keys value
  | replace =>
      rcases leaves with ⟨old, isBefore, isAfter, -⟩
      show Change.UndoneBy source target _
        (Change.reversed (source.scalarAt? keys) ⟨.replace, keys, value⟩)
      rw [isBefore]
      exact .replacement keys old value isBefore isAfter

/--
Up to their order, the operations of the way back are located changes that undo
those of the patch one by one.  The status is the same.
-/
theorem patchTo_reverse
    (source target : Document)
    (options : Options)
    (distinctSource : source.DistinctKeys)
    (distinctTarget : target.DistinctKeys) :
    let locate := Change.locate options.pointerStyle options.basePath
    (source.patchTo target options).operations =
        (source.changes target).map locate
      ∧ (∃ undoing,
          List.Forall₂ (Change.UndoneBy source target)
              (source.changes target) undoing
            ∧ (undoing.map locate).Perm
                (target.patchTo source options).operations)
      ∧ (target.patchTo source options).status =
          (source.patchTo target options).status := by
  intro locate
  refine ⟨patchTo_operations source target options, ?_, ?_⟩
  · refine
      ⟨(source.changes target).map fun change =>
        change.reversed (source.scalarAt? change.keys), ?_, ?_⟩
    · rw [List.forall₂_map_right_iff, List.forall₂_same]
      intro change found
      exact undoneBy_reversed distinctSource distinctTarget found
    · rw [patchTo_operations]
      apply List.Perm.map
      exact map_reversed_perm distinctSource distinctTarget
  · rw [status_patchTo, status_patchTo,
      comparisonStatus_comm distinctSource distinctTarget]

/--
The keys stand in another order in the second document, and so do the operations
of the way back.
-/
theorem patchTo_reverse_shapeChange :
    let before :=
      collection .mapping
        [("a", ofText "x"), ("b", collection .sequence [("0", ofText "y")])]
    let after := collection .mapping [("b", ofText "w"), ("a", ofText "z")]
    let options : Options := ⟨"/node", .escaped, false⟩
    before.DistinctKeys ∧ after.DistinctKeys
      ∧ (before.patchTo after options).operations =
          [⟨.replace, "/node/a", ofText "z"⟩,
            ⟨.remove, "/node/b/0", ofText "y"⟩,
            ⟨.add, "/node/b", ofText "w"⟩]
      ∧ ∃ undoing,
          List.Forall₂ (Change.UndoneBy before after)
              [⟨.replace, ["a"], .text "z"⟩, ⟨.remove, ["b", "0"], .text "y"⟩,
                ⟨.add, ["b"], .text "w"⟩]
              undoing
            ∧ (undoing.map (Change.locate .escaped "/node")).Perm
                [⟨.remove, "/node/b", ofText "w"⟩,
                  ⟨.add, "/node/b/0", ofText "y"⟩,
                  ⟨.replace, "/node/a", ofText "x"⟩] := by
  intro before after options
  have distinctBefore : before.DistinctKeys := by
    simp [before, ofText, DistinctKeys, DistinctKeysWithin, Keyed.keys]
  have distinctAfter : after.DistinctKeys := by
    simp [after, ofText, DistinctKeys, DistinctKeysWithin, Keyed.keys]
  rcases patchTo_reverse before after options distinctBefore distinctAfter with
    ⟨operations, undone, -⟩
  exact ⟨distinctBefore, distinctAfter, operations, undone⟩

end Document

end LeafPatch
