import LeafPatch.Proofs.Document.Similar
import LeafPatch.Proofs.Patch.Exactness
import LeafPatch.Proofs.Patch.Reversal
import LeafPatch.Proofs.Patch.Severity
import Mathlib.Data.List.Forall2

/-!
# Patches between similar documents

A patch depends on the content of its two documents alone.  If each of them is
replaced by a similar one, the operations come in another order and may carry
other scalars of the same value, and that is all that changes.

The order of the operations does follow the keys of the documents, so the two
walks do not meet the same children at the same time.  They are compared through
what a walk finds in the end: at each place the change that the leaves there call
for, and none at a place that is blocked.  Both are said of the documents by
their places, and similar documents agree on those.
-/

namespace LeafPatch

/-! ## Lists that match -/

/-- Item by item the first list is related to the second in some order. -/
def Matched
    {Left Right : Type}
    (relation : Left → Right → Prop)
    (lefts : List Left)
    (rights : List Right) :
    Prop :=
  ∃ matched, List.Forall₂ relation lefts matched ∧ matched.Perm rights

namespace Matched

theorem map
    {Left Right Left' Right' : Type}
    {relation : Left → Right → Prop}
    {image : Left' → Right' → Prop}
    {lefts : List Left}
    {rights : List Right}
    (onLeft : Left → Left')
    (onRight : Right → Right')
    (kept :
      ∀ left right, relation left right → image (onLeft left) (onRight right))
    (isMatched : Matched relation lefts rights) :
    Matched image (lefts.map onLeft) (rights.map onRight) := by
  rcases isMatched with ⟨matched, related, perm⟩
  refine ⟨matched.map onRight, ?_, perm.map onRight⟩
  rw [List.forall₂_map_left_iff, List.forall₂_map_right_iff]
  exact related.imp kept

/--
Two lists of changes match if each change has its counterpart in the other list
at the same place, and neither list has two at one place.
-/
theorem of_counterparts
    {relation : Change → Change → Prop}
    {lefts rights : List Change}
    (samePlace : ∀ left right, relation left right → left.keys = right.keys)
    (nodupLeft : (lefts.map Change.keys).Nodup)
    (nodupRight : (rights.map Change.keys).Nodup)
    (forth : ∀ left ∈ lefts, ∃ right ∈ rights, relation left right)
    (back : ∀ right ∈ rights, ∃ left ∈ lefts, relation left right) :
    Matched relation lefts rights := by
  induction lefts generalizing rights with
  | nil =>
      have empty : rights = [] := by
        rw [List.eq_nil_iff_forall_not_mem]
        intro right isRight
        rcases back right isRight with ⟨left, isLeft, -⟩
        cases isLeft
      subst empty
      exact ⟨[], .nil, .nil⟩
  | cons left rest ih =>
      rcases forth left List.mem_cons_self with ⟨right, isRight, related⟩
      rcases List.append_of_mem isRight with ⟨front, behind, rfl⟩
      -- the counterpart of the first change is taken out, wherever it stands
      have toFront : (front ++ right :: behind).Perm (right :: (front ++ behind)) :=
        List.perm_middle
      rcases List.nodup_cons.mp nodupLeft with ⟨freshLeft, laterLeft⟩
      rcases List.nodup_cons.mp ((toFront.map Change.keys).nodup_iff.mp nodupRight)
        with ⟨freshRight, laterRight⟩
      have matchedRest : Matched relation rest (front ++ behind) := by
        apply ih laterLeft laterRight
        · intro other isOther
          rcases forth other (List.mem_cons_of_mem _ isOther) with
            ⟨counterpart, isCounterpart, otherRelated⟩
          rcases List.mem_cons.mp (toFront.mem_iff.mp isCounterpart) with
            rfl | isLater
          · have taken : left.keys ∈ rest.map Change.keys :=
              List.mem_map.mpr
                ⟨other, isOther,
                  (samePlace _ _ otherRelated).trans (samePlace _ _ related).symm⟩
            exact absurd taken freshLeft
          · exact ⟨counterpart, isLater, otherRelated⟩
        · intro counterpart isCounterpart
          rcases back counterpart
              (toFront.mem_iff.mpr (List.mem_cons_of_mem _ isCounterpart)) with
            ⟨other, isOther, otherRelated⟩
          rcases List.mem_cons.mp isOther with rfl | isLater
          · have taken : right.keys ∈ (front ++ behind).map Change.keys :=
              List.mem_map.mpr
                ⟨counterpart, isCounterpart,
                  (samePlace _ _ otherRelated).symm.trans (samePlace _ _ related)⟩
            exact absurd taken freshRight
          · exact ⟨other, isLater, otherRelated⟩
      rcases matchedRest with ⟨matched, relatedRest, perm⟩
      exact
        ⟨right :: matched, .cons related relatedRest,
          (perm.cons right).trans toFront.symm⟩

end Matched

/-- The patches have the same status and, in some order, the same operations by value. -/
structure Patch.Rearranged (left right : Patch) : Prop where
  status : left.status = right.status
  operations :
    Matched (fun operation other => operation.sameValue other = true)
      left.operations right.operations

namespace Change

/-- The same happens to the same leaf, up to equality by value. -/
structure SameValue (left right : Change) : Prop where
  action : left.action = right.action
  keys : left.keys = right.keys
  value : left.value.sameValue right.value = true

theorem SameValue.symm
    {left right : Change}
    (same : SameValue left right) :
    SameValue right left where
  action := same.action.symm
  keys := same.keys.symm
  value := by
    rw [Scalar.sameValue_comm]
    exact same.value

theorem SameValue.locate
    {left right : Change}
    (same : SameValue left right)
    (style : Pointer.Style)
    (pointer : String) :
    (left.locate style pointer).sameValue (right.locate style pointer) =
      true := by
  simp [Operation.sameValue, Change.locate, Document.sameValue, same.action,
    same.keys, same.value]

/-- Leaves of the same values call for the same change. -/
theorem exists_between?_of_sameLeaf
    {keys : List String}
    {before otherBefore after otherAfter : Option Scalar}
    {change : Change}
    (sameBefore : Scalar.SameLeaf before otherBefore)
    (sameAfter : Scalar.SameLeaf after otherAfter)
    (called : between? keys before after = some change) :
    ∃ other, between? keys otherBefore otherAfter = some other
      ∧ SameValue change other := by
  cases before with
  | none =>
      cases otherBefore with
      | some otherOld => cases sameBefore
      | none =>
          cases after with
          | none => cases called
          | some new =>
              cases otherAfter with
              | none => cases sameAfter
              | some otherNew =>
                  cases called
                  exact ⟨_, rfl, rfl, rfl, sameAfter⟩
  | some old =>
      cases otherBefore with
      | none => cases sameBefore
      | some otherOld =>
          cases after with
          | none =>
              cases otherAfter with
              | some otherNew => cases sameAfter
              | none =>
                  cases called
                  exact ⟨_, rfl, rfl, rfl, sameBefore⟩
          | some new =>
              cases otherAfter with
              | none => cases sameAfter
              | some otherNew =>
                  -- one pair is of different value if and only if the other is
                  have compared := Scalar.sameValue_congr sameBefore sameAfter
                  rw [between?] at called ⊢
                  rw [← compared]
                  split at called
                  · cases called
                  · next different =>
                      cases called
                      rw [if_neg different]
                      exact ⟨_, rfl, rfl, rfl, sameAfter⟩

end Change

namespace Document

/-! ## What similar documents have in common -/

section Similar

variable
    {source otherSource target otherTarget : Document}
    (similarSource : Similar source otherSource)
    (similarTarget : Similar target otherTarget)

include similarSource similarTarget

theorem Blocked.of_similar
    {keys : List String}
    (blocked : Blocked source target keys) :
    Blocked otherSource otherTarget keys := by
  rcases blocked with
    ⟨stop, above, before, after, isBefore, isAfter, unrecognized⟩
  rcases similarSource.exists_of_follow? isBefore with
    ⟨otherBefore, isOtherBefore, similarBefore⟩
  rcases similarTarget.exists_of_follow? isAfter with
    ⟨otherAfter, isOtherAfter, similarAfter⟩
  refine ⟨stop, above, otherBefore, otherAfter, isOtherBefore, isOtherAfter, ?_⟩
  rw [← similarBefore.isUnrecognized_eq, ← similarAfter.isUnrecognized_eq]
  exact unrecognized

theorem LastShared.of_similar
    {keys shared : List String}
    (lastShared : LastShared source target keys shared) :
    LastShared otherSource otherTarget keys shared where
  above := lastShared.above
  inSource := by
    rw [← similarSource.isSome_follow?]
    exact lastShared.inSource
  inTarget := by
    rw [← similarTarget.isSome_follow?]
    exact lastShared.inTarget
  last := by
    intro place above inSource inTarget
    rw [← similarSource.isSome_follow?] at inSource
    rw [← similarTarget.isSome_follow?] at inTarget
    exact lastShared.last place above inSource inTarget

theorem Unmatched.of_similar
    {keys : List String}
    (unmatched : Unmatched source target keys) :
    Unmatched otherSource otherTarget keys := by
  rcases unmatched with
    ⟨found, absent, shared, node, lastShared, isNode, recognized⟩
  rcases similarTarget.exists_of_follow? isNode with
    ⟨otherNode, isOtherNode, similarNode⟩
  refine
    ⟨similarSource.unrecognizedAt_of_unrecognizedAt found, ?_, shared, otherNode,
      lastShared.of_similar similarSource similarTarget, isOtherNode, ?_⟩
  · rw [← Option.isNone_iff_eq_none, ← Option.not_isSome] at absent ⊢
    rw [← similarTarget.isSome_follow?]
    exact absent
  · rw [← similarNode.isUnrecognized_eq]
    exact recognized

end Similar

theorem exists_unmatchedEither_iff_of_similar
    {source otherSource target otherTarget : Document}
    (similarSource : Similar source otherSource)
    (similarTarget : Similar target otherTarget) :
    (∃ keys, UnmatchedEither source target keys) ↔
      ∃ keys, UnmatchedEither otherSource otherTarget keys := by
  apply exists_congr
  intro keys
  constructor
  · rintro (unmatched | unmatched)
    · exact Or.inl (unmatched.of_similar similarSource similarTarget)
    · exact Or.inr (unmatched.of_similar similarTarget similarSource)
  · rintro (unmatched | unmatched)
    · exact Or.inl (unmatched.of_similar similarSource.symm similarTarget.symm)
    · exact Or.inr (unmatched.of_similar similarTarget.symm similarSource.symm)

/-! ## The patches -/

section Distinct

variable
    {source otherSource target otherTarget : Document}
    (distinctSource : source.DistinctKeys)
    (distinctOtherSource : otherSource.DistinctKeys)
    (distinctTarget : target.DistinctKeys)
    (distinctOtherTarget : otherTarget.DistinctKeys)
    (similarSource : Similar source otherSource)
    (similarTarget : Similar target otherTarget)

include distinctSource distinctOtherSource distinctTarget distinctOtherTarget
  similarSource similarTarget

theorem comparisonStatus_eq_of_similar :
    source.comparisonStatus target =
      otherSource.comparisonStatus otherTarget := by
  apply Status.eq_of_le_code_iff
  · rw [one_le_code_comparisonStatus_iff distinctSource distinctTarget,
      one_le_code_comparisonStatus_iff distinctOtherSource distinctOtherTarget]
    simp only [similarSource.unrecognizedAt_iff,
      similarTarget.unrecognizedAt_iff]
  · rw [two_le_code_comparisonStatus_iff distinctSource distinctTarget,
      two_le_code_comparisonStatus_iff distinctOtherSource distinctOtherTarget]
    exact exists_unmatchedEither_iff_of_similar similarSource similarTarget

/-- Each change has a counterpart of the same value. -/
theorem exists_mem_changes_of_similar
    {change : Change}
    (found : change ∈ source.changes target) :
    ∃ other ∈ otherSource.changes otherTarget,
      Change.SameValue change other := by
  rcases (mem_changes_iff distinctSource distinctTarget).mp found with
    ⟨free, called⟩
  rcases Change.exists_between?_of_sameLeaf
      (similarSource.sameLeaf_scalarAt? change.keys)
      (similarTarget.sameLeaf_scalarAt? change.keys) called with
    ⟨other, otherCalled, same⟩
  refine ⟨other, ?_, same⟩
  rw [mem_changes_iff distinctOtherSource distinctOtherTarget, ← same.keys]
  constructor
  · intro blocked
    exact free (blocked.of_similar similarSource.symm similarTarget.symm)
  · exact otherCalled

theorem matched_changes_of_similar :
    Matched Change.SameValue
      (source.changes target) (otherSource.changes otherTarget) := by
  apply Matched.of_counterparts
  · intro left right same
    exact same.keys
  · exact nodup_keys_changes distinctSource distinctTarget
  · exact nodup_keys_changes distinctOtherSource distinctOtherTarget
  · intro change found
    exact
      exists_mem_changes_of_similar distinctSource distinctOtherSource
        distinctTarget distinctOtherTarget similarSource similarTarget found
  · intro other found
    rcases exists_mem_changes_of_similar distinctOtherSource distinctSource
        distinctOtherTarget distinctTarget similarSource.symm
        similarTarget.symm found with
      ⟨change, isChange, same⟩
    exact ⟨change, isChange, same.symm⟩

theorem rearranged_patchTo (options : Options) :
    (source.patchTo target options).Rearranged
      (otherSource.patchTo otherTarget options) where
  status := by
    rw [status_patchTo, status_patchTo]
    exact
      comparisonStatus_eq_of_similar distinctSource distinctOtherSource
        distinctTarget distinctOtherTarget similarSource similarTarget
  operations := by
    rw [patchTo_operations, patchTo_operations]
    have matched :=
      matched_changes_of_similar distinctSource distinctOtherSource
        distinctTarget distinctOtherTarget similarSource similarTarget
    apply matched.map
    intro change other same
    exact same.locate options.pointerStyle options.basePath

end Distinct

/--
Similar documents have patches of the same status and with the same operations
by value in some order, and so have documents of the same value.
-/
theorem patchTo_similar
    (source otherSource target otherTarget : Document)
    (options : Options)
    (distinctSource : source.DistinctKeys)
    (distinctOtherSource : otherSource.DistinctKeys)
    (distinctTarget : target.DistinctKeys)
    (distinctOtherTarget : otherTarget.DistinctKeys) :
    (Similar source otherSource → Similar target otherTarget →
        (source.patchTo target options).Rearranged
          (otherSource.patchTo otherTarget options))
      ∧ (source.sameValue otherSource = true →
          target.sameValue otherTarget = true →
            (source.patchTo target options).Rearranged
              (otherSource.patchTo otherTarget options)) := by
  constructor
  · intro similarSource similarTarget
    exact
      rearranged_patchTo distinctSource distinctOtherSource distinctTarget
        distinctOtherTarget similarSource similarTarget options
  · intro sameSource sameTarget
    apply rearranged_patchTo distinctSource distinctOtherSource distinctTarget
      distinctOtherTarget
    · exact similar_of_sameValue distinctSource sameSource
    · exact similar_of_sameValue distinctTarget sameTarget

/--
The keys stand in another order, an array is an object, and a zero is the
negative zero.
-/
theorem patchTo_similar_otherOrder :
    let zero := scalar (.number (Number.signedZero false))
    let negativeZero := scalar (.number (Number.signedZero true))
    let before :=
      collection .mapping
        [("a", collection .sequence [("0", ofText "x")]), ("n", zero)]
    let otherBefore :=
      collection .mapping
        [("n", negativeZero), ("a", collection .mapping [("0", ofText "x")])]
    let after := collection .mapping [("b", zero)]
    let otherAfter := collection .mapping [("b", negativeZero)]
    (before.DistinctKeys ∧ otherBefore.DistinctKeys
        ∧ after.DistinctKeys ∧ otherAfter.DistinctKeys)
      ∧ (Similar before otherBefore ∧ after.sameValue otherAfter = true)
      ∧ (before.patchTo after Options.default).operations =
          [⟨.remove, "/a/0", ofText "x"⟩, ⟨.remove, "/n", zero⟩,
            ⟨.add, "/b", zero⟩]
      ∧ (otherBefore.patchTo otherAfter Options.default).operations =
          [⟨.remove, "/n", negativeZero⟩, ⟨.remove, "/a/0", ofText "x"⟩,
            ⟨.add, "/b", negativeZero⟩]
      ∧ (before.patchTo after Options.default).Rearranged
          (otherBefore.patchTo otherAfter Options.default)
      ∧ (after.patchTo after Options.default).Rearranged
          (otherAfter.patchTo otherAfter Options.default) := by
  intro zero negativeZero before otherBefore after otherAfter
  have distinctBefore : before.DistinctKeys := by
    simp [before, zero, ofText, DistinctKeys, DistinctKeysWithin, Keyed.keys]
  have distinctOtherBefore : otherBefore.DistinctKeys := by
    simp [otherBefore, negativeZero, ofText, DistinctKeys, DistinctKeysWithin,
      Keyed.keys]
  have distinctAfter : after.DistinctKeys := by
    simp [after, zero, DistinctKeys, DistinctKeysWithin, Keyed.keys]
  have distinctOtherAfter : otherAfter.DistinctKeys := by
    simp [otherAfter, negativeZero, DistinctKeys, DistinctKeysWithin, Keyed.keys]
  have similarItems :
      Similar (collection .sequence [("0", ofText "x")])
        (collection .mapping [("0", ofText "x")]) := by
    apply similar_of_found
    · simp
    · simp [Keyed.find?, ofText, Similar.scalar, Scalar.sameValue_refl]
  have similarBefore : Similar before otherBefore := by
    apply similar_of_found
    · simp [or_comm]
    · intro key child member
      rw [List.mem_cons, List.mem_singleton, Prod.mk.injEq, Prod.mk.injEq]
        at member
      rcases member with ⟨rfl, rfl⟩ | ⟨rfl, rfl⟩
      · exact ⟨_, by simp [Keyed.find?], similarItems⟩
      · exact ⟨negativeZero, by simp [Keyed.find?], .scalar rfl⟩
  have sameAfter : after.sameValue otherAfter = true := by decide
  have similarAfter : Similar after otherAfter :=
    similar_of_sameValue distinctAfter sameAfter
  refine
    ⟨⟨distinctBefore, distinctOtherBefore, distinctAfter, distinctOtherAfter⟩,
      ⟨similarBefore, sameAfter⟩, rfl, rfl, ?_, ?_⟩
  · rcases patchTo_similar before otherBefore after otherAfter Options.default
        distinctBefore distinctOtherBefore distinctAfter distinctOtherAfter with
      ⟨similar, -⟩
    exact similar similarBefore similarAfter
  · rcases patchTo_similar after otherAfter after otherAfter Options.default
        distinctAfter distinctOtherAfter distinctAfter distinctOtherAfter with
      ⟨-, same⟩
    exact same sameAfter sameAfter

end Document

end LeafPatch
