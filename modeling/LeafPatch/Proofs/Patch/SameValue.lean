import LeafPatch.Proofs.Document.Equality
import LeafPatch.Proofs.Patch.Clean
import LeafPatch.Proofs.Patch.Rearrangement

/-!
# Patches between documents of the same value

Nothing changes between similar documents.  Their leaves agree at every place, and
each place of one is a place of the other, so that nothing in either is without
its counterpart.  All that the status can still say is that a null or boolean
stands in the place of its like, which is an error and never more than that.

Documents of the same value are similar, so this holds of them whatever the order
of their keys and the signs of their zeros.
-/

namespace LeafPatch.Document

section Similar

variable
    {source target : Document}
    (similar : Similar source target)

include similar

/-- What stands somewhere in one document has its counterpart in the other. -/
theorem not_unmatched_of_similar (keys : List String) :
    ¬ Unmatched source target keys := by
  rintro ⟨⟨value, found⟩, absent, -⟩
  have present := similar.isSome_follow? keys
  rw [found, absent] at present
  cases present

variable
    (distinctSource : source.DistinctKeys)
    (distinctTarget : target.DistinctKeys)

include distinctSource distinctTarget

theorem changes_eq_nil_of_similar : source.changes target = [] :=
  (changes_eq_nil_iff_of_not_blocked distinctSource distinctTarget).mpr
    fun keys _ => similar.sameLeaf_scalarAt? keys

/-- Each null or boolean clashes with its counterpart, and that is all. -/
theorem comparisonStatus_of_similar :
    source.comparisonStatus target =
      if source.hasUnrecognized then .error else .ok := by
  cases unrecognized : source.hasUnrecognized with
  | false =>
      have alsoTarget := similar.hasUnrecognized_eq distinctSource distinctTarget
      rw [unrecognized] at alsoTarget
      exact
        (comparisonStatus_eq_ok_iff distinctSource distinctTarget).mpr
          ⟨unrecognized, alsoTarget.symm⟩
  | true =>
      have inSource := (hasUnrecognized_iff distinctSource).mp unrecognized
      rw [if_pos rfl, Status.eq_error_iff,
        one_le_code_comparisonStatus_iff distinctSource distinctTarget,
        two_le_code_comparisonStatus_iff distinctSource distinctTarget]
      refine ⟨Or.inl inSource, ?_⟩
      -- it is not worse, since that takes a place that only one of them has
      rintro ⟨keys, unmatched | unmatched⟩
      · exact not_unmatched_of_similar similar keys unmatched
      · exact not_unmatched_of_similar similar.symm keys unmatched

end Similar

/--
Equality by value is an equivalence of documents in which no collection gives a
key twice.  The patch between two documents of the same value has no operations,
whatever the options, and its status is an error if they have a null or boolean
anywhere, and clean otherwise.
-/
theorem patchTo_sameValue :
    (Equivalence
        fun left right : {document : Document // document.DistinctKeys} =>
          left.val.sameValue right.val = true)
      ∧ ∀ (source target : Document) (options : Options),
          source.DistinctKeys → target.DistinctKeys →
            source.sameValue target = true →
              source.patchTo target options =
                ⟨[], if source.hasUnrecognized then .error else .ok⟩ := by
  refine ⟨sameValue_equivalence, ?_⟩
  intro source target options distinctSource distinctTarget same
  have similar := similar_of_sameValue distinctSource same
  have operations : (source.patchTo target options).operations = [] := by
    rw [patchTo_operations,
      changes_eq_nil_of_similar similar distinctSource distinctTarget,
      List.map_nil]
  have status :
      (source.patchTo target options).status =
        if source.hasUnrecognized then .error else .ok := by
    rw [status_patchTo,
      comparisonStatus_of_similar similar distinctSource distinctTarget]
  rw [← operations, ← status]

/--
The keys are in another order, on both levels, and a zero has another sign.  With
a null among them the patch is not clean, without it is.
-/
theorem patchTo_sameValue_negativeZero :
    let zero := scalar (.number (Number.signedZero false))
    let negativeZero := scalar (.number (Number.signedZero true))
    let slots := collection .mapping [("count", zero), ("rack", ofText "x")]
    let otherSlots :=
      collection .mapping [("rack", ofText "x"), ("count", negativeZero)]
    let first :=
      collection .mapping [("slots", slots), ("owner", unrecognized .null)]
    let second :=
      collection .mapping [("owner", unrecognized .null), ("slots", otherSlots)]
    let third :=
      collection .mapping [("slots", otherSlots), ("owner", unrecognized .null)]
    let options : Options := ⟨"/node", .escaped, true⟩
    (first.DistinctKeys ∧ second.DistinctKeys ∧ third.DistinctKeys)
      ∧ (first.sameValue second = true ∧ second.sameValue third = true)
      ∧ (first.sameValue first = true
          ∧ second.sameValue first = true ∧ first.sameValue third = true)
      ∧ first.patchTo third options = ⟨[], .error⟩
      ∧ slots.patchTo otherSlots options = ⟨[], .ok⟩ := by
  intro zero negativeZero slots otherSlots first second third options
  have distinctSlots : slots.DistinctKeys := by
    simp [slots, zero, ofText, DistinctKeys, DistinctKeysWithin, Keyed.keys]
  have distinctOtherSlots : otherSlots.DistinctKeys := by
    simp [otherSlots, negativeZero, ofText, DistinctKeys, DistinctKeysWithin,
      Keyed.keys]
  have distinctFirst : first.DistinctKeys := by
    simp [first, distinctSlots, DistinctKeys, DistinctKeysWithin, Keyed.keys]
  have distinctSecond : second.DistinctKeys := by
    simp [second, distinctOtherSlots, DistinctKeys, DistinctKeysWithin,
      Keyed.keys]
  have distinctThird : third.DistinctKeys := by
    simp [third, distinctOtherSlots, DistinctKeys, DistinctKeysWithin,
      Keyed.keys]
  have before : first.sameValue second = true := by decide
  have after : second.sameValue third = true := by decide
  rcases patchTo_sameValue with ⟨equivalence, unchanged⟩
  have across : first.sameValue third = true :=
    equivalence.trans
      (x := ⟨first, distinctFirst⟩) (y := ⟨second, distinctSecond⟩)
      (z := ⟨third, distinctThird⟩) before after
  refine
    ⟨⟨distinctFirst, distinctSecond, distinctThird⟩, ⟨before, after⟩,
      ⟨equivalence.refl ⟨first, distinctFirst⟩, ?_, across⟩, ?_, ?_⟩
  · exact
      equivalence.symm
        (x := ⟨first, distinctFirst⟩) (y := ⟨second, distinctSecond⟩) before
  · exact unchanged first third options distinctFirst distinctThird across
  · exact
      unchanged slots otherSlots options distinctSlots distinctOtherSlots
        (by decide)

end LeafPatch.Document
