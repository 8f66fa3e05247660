import LeafPatch.Proofs.Patch.Severity
import LeafPatch.Proofs.Patch.Soundness

/-!
# Clean patches

A patch is clean if neither of its documents has a null or boolean.  Then no
place is blocked, and the patch speaks of all of them: it is empty exactly if the
documents agree on their leaves, and otherwise its operations lead from the
leaves of one to those of the other.

The strict policy submits clean patches and no others.
-/

namespace LeafPatch

/-- A policy submits the operations of a patch, the strict one only if it is clean. -/
theorem Patch.submit_eq_ok_iff
    {patch : Patch}
    {policy : SubmitPolicy}
    {operations : List Operation} :
    patch.submit policy = .ok operations ↔
      (policy = .requireOk → patch.status = .ok)
        ∧ patch.operations = operations := by
  by_cases isOk : patch.status = .ok
  · simp [submit, Status.isOk, isOk]
  · cases policy <;> simp [submit, Status.isOk, isOk]

/-- The strict policy admits only documents without nulls and booleans. -/
def SubmitPolicy.Admits
    (policy : SubmitPolicy)
    (source target : Document) :
    Prop :=
  policy = .allowPartial
    ∨ (source.hasUnrecognized = false ∧ target.hasUnrecognized = false)

theorem SubmitPolicy.admits_iff
    {policy : SubmitPolicy}
    {source target : Document} :
    policy.Admits source target ↔
      (policy = .requireOk →
        source.hasUnrecognized = false ∧ target.hasUnrecognized = false) := by
  cases policy <;> simp [Admits]

/-- Only the strict policy refuses a patch, and then it says how unclean it is. -/
theorem Patch.submit_eq_error_iff
    {patch : Patch}
    {policy : SubmitPolicy}
    {refusal : Incomplete} :
    patch.submit policy = .error refusal ↔
      ¬ (policy = .requireOk → patch.status = .ok)
        ∧ refusal = ⟨patch.status⟩ := by
  by_cases isOk : patch.status = .ok
  · simp [submit, Status.isOk, isOk]
  · rw [@eq_comm _ refusal]
    cases policy <;> simp [submit, Status.isOk, isOk]

namespace Document

section Recognized

variable
    {source target : Document}
    (distinctSource : source.DistinctKeys)
    (distinctTarget : target.DistinctKeys)

include distinctSource distinctTarget

theorem comparisonStatus_eq_ok_iff :
    source.comparisonStatus target = .ok ↔
      source.hasUnrecognized = false ∧ target.hasUnrecognized = false := by
  rw [Status.eq_ok_iff,
    one_le_code_comparisonStatus_iff distinctSource distinctTarget, not_or,
    ← hasUnrecognized_iff distinctSource, ← hasUnrecognized_iff distinctTarget,
    Bool.not_eq_true, Bool.not_eq_true]

theorem not_blocked_of_recognized
    (recognizedSource : source.hasUnrecognized = false)
    (recognizedTarget : target.hasUnrecognized = false)
    (keys : List String) :
    ¬ Blocked source target keys := by
  rintro ⟨stop, -, before, after, isBefore, isAfter, unrecognized⟩
  rcases unrecognized with atSource | atTarget
  · rcases exists_eq_unrecognized atSource with ⟨value, rfl⟩
    have found := (hasUnrecognized_iff distinctSource).mpr ⟨stop, value, isBefore⟩
    rw [recognizedSource] at found
    cases found
  · rcases exists_eq_unrecognized atTarget with ⟨value, rfl⟩
    have found := (hasUnrecognized_iff distinctTarget).mpr ⟨stop, value, isAfter⟩
    rw [recognizedTarget] at found
    cases found

/-- Nothing changes exactly if the leaves agree at every place that is not blocked. -/
theorem changes_eq_nil_iff_of_not_blocked :
    source.changes target = [] ↔
      ∀ keys, ¬ Blocked source target keys →
        Scalar.SameLeaf (source.scalarAt? keys) (target.scalarAt? keys) := by
  rw [List.eq_nil_iff_forall_not_mem]
  constructor
  · intro unchanged keys free
    cases called :
        Change.between? keys
          (source.scalarAt? keys) (target.scalarAt? keys) with
    | none => exact Change.between?_eq_none_iff.mp called
    | some change =>
        have sameKeys := Change.keys_of_between?_eq_some called
        refine absurd ?_ (unchanged change)
        rw [mem_changes_iff distinctSource distinctTarget, sameKeys]
        exact ⟨free, called⟩
  · intro agree change found
    rcases (mem_changes_iff distinctSource distinctTarget).mp found with
      ⟨free, called⟩
    rw [Change.between?_eq_none_iff.mpr (agree change.keys free)] at called
    cases called

/-- Where nothing is blocked, nothing changes exactly if all leaves agree. -/
theorem changes_eq_nil_iff
    (free : ∀ keys, ¬ Blocked source target keys) :
    source.changes target = [] ↔
      ∀ keys,
        Scalar.SameLeaf (source.scalarAt? keys) (target.scalarAt? keys) := by
  rw [changes_eq_nil_iff_of_not_blocked distinctSource distinctTarget]
  exact forall_congr' fun keys => imp_iff_right (free keys)

variable (options : Options)

/-- What is submitted is the whole patch, if the policy admits the documents. -/
theorem submit_patchTo_eq_ok_iff
    {policy : SubmitPolicy}
    {operations : List Operation} :
    (source.patchTo target options).submit policy = .ok operations ↔
      policy.Admits source target
        ∧ (source.patchTo target options).operations = operations := by
  rw [Patch.submit_eq_ok_iff, status_patchTo,
    comparisonStatus_eq_ok_iff distinctSource distinctTarget,
    SubmitPolicy.admits_iff]

theorem submit_patchTo_eq_error_iff
    {policy : SubmitPolicy}
    {refusal : Incomplete} :
    (source.patchTo target options).submit policy = .error refusal ↔
      ¬ policy.Admits source target
        ∧ refusal = ⟨(source.patchTo target options).status⟩ := by
  rw [Patch.submit_eq_error_iff, status_patchTo,
    comparisonStatus_eq_ok_iff distinctSource distinctTarget,
    SubmitPolicy.admits_iff]

/-- What the strict policy submits, and when. -/
theorem submit_requireOk_eq_ok_iff
    {operations : List Operation} :
    (source.patchTo target options).submit .requireOk = .ok operations ↔
      (source.hasUnrecognized = false ∧ target.hasUnrecognized = false)
        ∧ (source.patchTo target options).operations = operations := by
  rw [submit_patchTo_eq_ok_iff distinctSource distinctTarget,
    SubmitPolicy.admits_iff, imp_iff_right rfl]

end Recognized

end Document

end LeafPatch
