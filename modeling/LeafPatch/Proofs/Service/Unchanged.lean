import LeafPatch.Proofs.Document.Equality
import LeafPatch.Proofs.Service.Edit

/-!
# Edits that change nothing

An edit is reported as unchanged if its patch is submitted and has no operations.
A patch speaks of leaves alone, so this is the case exactly if the stored node
and the edited one agree on their leaves at every place that is not blocked;
under the strict policy neither may have a null or boolean, and then no place is
blocked.

The two documents need not be equal.  A collection without leaves may come or go,
and an array may become an object with the same keys.  Under the policy that
allows partial patches a null or boolean may become another value, too.  These
are the only ways in which they can differ.
-/

namespace LeafPatch

namespace Document

/-- A place that is blocked by nulls and booleans on both sides has no leaf. -/
theorem sameLeaf_of_blocked
    {source target : Document}
    (same : SameUnrecognized source target)
    {keys : List String}
    (blocked : Blocked source target keys) :
    Scalar.SameLeaf (source.scalarAt? keys) (target.scalarAt? keys) := by
  -- One side has a null or boolean there, so both have, and nothing is below.
  rcases blocked with
    ⟨stop, ⟨rest, rfl⟩, before, after, isBefore, isAfter, isUnrecognized⟩
  have unrecognized :
      ∃ value,
        source.follow? stop = some (unrecognized value)
          ∧ target.follow? stop = some (unrecognized value) := by
    rcases isUnrecognized with atSource | atTarget
    · rcases exists_eq_unrecognized atSource with ⟨value, rfl⟩
      exact ⟨value, isBefore, (same stop value).mp isBefore⟩
    · rcases exists_eq_unrecognized atTarget with ⟨value, rfl⟩
      exact ⟨value, (same stop value).mpr isAfter, isAfter⟩
  rcases unrecognized with ⟨value, atSource, atTarget⟩
  have noLeaf : (unrecognized value).scalarAt? rest = none := by
    cases rest <;> rfl
  rw [scalarAt?, scalarAt?, follow?_append, follow?_append, atSource, atTarget,
    Option.bind_some, ← scalarAt?, noLeaf]
  trivial

/--
Documents between which nothing changes are equal by value exactly if they have
the same collections and the same nulls and booleans.
-/
theorem sameValue_iff_of_changes_eq_nil
    {source target : Document}
    (distinctSource : source.DistinctKeys)
    (distinctTarget : target.DistinctKeys)
    (unchanged : source.changes target = []) :
    source.sameValue target = true ↔
      SameContainers source target ∧ SameUnrecognized source target := by
  rw [sameValue_iff_of_parts distinctSource distinctTarget]
  constructor
  · rintro ⟨containers, unrecognized, -⟩
    exact ⟨containers, unrecognized⟩
  · rintro ⟨containers, unrecognized⟩
    refine ⟨containers, unrecognized, fun keys => ?_⟩
    by_cases blocked : Blocked source target keys
    · exact sameLeaf_of_blocked unrecognized blocked
    · exact
        (changes_eq_nil_iff_of_not_blocked distinctSource
          distinctTarget).mp unchanged keys blocked

end Document

namespace Service

/-- An edit is unchanged exactly if a patch without operations is submitted. -/
theorem result_eq_unchanged_iff
    {State : Type}
    {client : Client State}
    {id : String}
    {edited : Document}
    {options : Options}
    {policy : SubmitPolicy}
    {start : State}
    {transcript : Transcript State (Except WorkflowError EditOutcome)}
    (run : EditRun client id edited options policy start transcript) :
    transcript.result = .ok .unchanged ↔
      ∃ node next, client.answer start (.getNode id) = (.ok node, next)
        ∧ (node.patchTo edited options).submit policy = .ok [] := by
  cases run with
  | notFetched answer => simp [answer]
  | refused answer refuses => simp [answer, refuses]
  | unchanged answer submits => simp [answer, submits]
  | notUpdated answer submits nonempty update => simp [answer, submits, nonempty]
  | updated answer submits nonempty update => simp [answer, submits, nonempty]

/-- An edit that is unchanged calls for no update. -/
theorem calls_of_unchanged
    {State : Type}
    {client : Client State}
    {id : String}
    {edited : Document}
    {options : Options}
    {policy : SubmitPolicy}
    {start : State}
    {transcript : Transcript State (Except WorkflowError EditOutcome)}
    (run : EditRun client id edited options policy start transcript)
    (unchanged : transcript.result = .ok .unchanged) :
    transcript.calls = [.getNode id] := by
  cases run with
  | notFetched answer => cases unchanged
  | refused answer refuses => cases unchanged
  | unchanged answer submits => rfl
  | notUpdated answer submits nonempty update => cases unchanged
  | updated answer submits nonempty update => cases unchanged

/--
An edit is reported as unchanged exactly if the node is fetched, its leaves are
by value those of the edited document at every place that is not blocked, and
under the strict policy neither document has a null or boolean.

No update has then been called for.  Under the strict policy all leaves agree,
and under either policy the two documents are equal by value exactly if they have
the same collections and the same nulls and booleans at the same places.
-/
theorem editNode_unchanged_iff
    {State : Type}
    (client : Client State)
    (start : State)
    (id : String)
    (edited : Document)
    (options : Options)
    (policy : SubmitPolicy)
    (distinctEdited : edited.DistinctKeys)
    (distinctNode :
      ∀ node next, client.answer start (.getNode id) = (.ok node, next) →
        node.DistinctKeys) :
    let transcript := (editNode id edited options policy).run client start
    (transcript.result = .ok .unchanged ↔
        ∃ node next, client.answer start (.getNode id) = (.ok node, next)
          ∧ (policy = .requireOk →
              node.hasUnrecognized = false ∧ edited.hasUnrecognized = false)
          ∧ ∀ keys, ¬ Document.Blocked node edited keys →
              Scalar.SameLeaf (node.scalarAt? keys) (edited.scalarAt? keys))
      ∧ (transcript.result = .ok .unchanged →
          transcript.calls = [.getNode id]
            ∧ ∀ node next, client.answer start (.getNode id) = (.ok node, next) →
                (policy = .requireOk → ∀ keys,
                    Scalar.SameLeaf (node.scalarAt? keys)
                      (edited.scalarAt? keys))
                  ∧ (node.sameValue edited = true ↔
                      Document.SameContainers node edited
                        ∧ Document.SameUnrecognized node edited)) := by
  intro transcript
  have run : EditRun client id edited options policy start transcript :=
    run_editNode client id edited options policy start
  have unchanged :
      transcript.result = .ok .unchanged ↔
        ∃ node next, client.answer start (.getNode id) = (.ok node, next)
          ∧ (policy = .requireOk →
              node.hasUnrecognized = false ∧ edited.hasUnrecognized = false)
          ∧ ∀ keys, ¬ Document.Blocked node edited keys →
              Scalar.SameLeaf (node.scalarAt? keys) (edited.scalarAt? keys) := by
    rw [result_eq_unchanged_iff run]
    refine exists_congr fun node => exists_congr fun next => ?_
    refine and_congr_right fun answer => ?_
    have distinct := distinctNode node next answer
    rw [Patch.submit_eq_ok_iff, Document.status_patchTo,
      Document.comparisonStatus_eq_ok_iff distinct distinctEdited,
      Document.patchTo_operations, List.map_eq_nil_iff,
      Document.changes_eq_nil_iff_of_not_blocked distinct distinctEdited]
  refine ⟨unchanged, fun isUnchanged => ?_⟩
  refine ⟨calls_of_unchanged run isUnchanged, ?_⟩
  intro node next answer
  have distinct := distinctNode node next answer
  rcases unchanged.mp isUnchanged with ⟨other, later, same, clean, agree⟩
  cases answer.symm.trans same
  constructor
  · intro strict keys
    exact
      agree keys
        (Document.not_blocked_of_recognized distinct distinctEdited
          (clean strict).1 (clean strict).2 keys)
  · exact
      Document.sameValue_iff_of_changes_eq_nil distinct distinctEdited
        ((Document.changes_eq_nil_iff_of_not_blocked distinct
          distinctEdited).mpr agree)

/-- A client that has one node under every name, and stores nothing. -/
def Client.showing (node : Document) : Client Unit where
  answer _ call :=
    match call with
    | .getNode _ => (.ok node, ())
    | .createNode _ => (.error "not supported", ())
    | .updateNode _ _ => (.error "not supported", ())
    | .deleteNode _ => (.error "not supported", ())
    | .setProvisionState _ _ => (.error "not supported", ())

/-- A key is moved to the front and an empty object is taken out. -/
theorem editNode_unchanged_otherOrder :
    let node : Document :=
      .collection .mapping
        [("name", .ofText "rack"), ("extra", .collection .mapping []),
          ("uuid", .ofText "1")]
    let edited : Document :=
      .collection .mapping [("uuid", .ofText "1"), ("name", .ofText "rack")]
    let transcript :=
      (editNode "1" edited .default .requireOk).run (.showing node) ()
    node.DistinctKeys ∧ edited.DistinctKeys
      ∧ transcript.result = .ok .unchanged
      ∧ transcript.calls = [.getNode "1"]
      ∧ (∀ keys,
          Scalar.SameLeaf (node.scalarAt? keys) (edited.scalarAt? keys))
      ∧ ¬ Document.SameContainers node edited := by
  intro node edited transcript
  have distinctNode : node.DistinctKeys := by
    simp [node, Document.ofText, Document.DistinctKeys,
      Document.DistinctKeysWithin, Keyed.keys]
  have distinctEdited : edited.DistinctKeys := by
    simp [edited, Document.ofText, Document.DistinctKeys,
      Document.DistinctKeysWithin, Keyed.keys]
  have result : transcript.result = .ok .unchanged := rfl
  rcases
      editNode_unchanged_iff (.showing node) () "1" edited .default .requireOk
        distinctEdited (by rintro _ _ ⟨⟩; exact distinctNode) with
    ⟨-, ofUnchanged⟩
  rcases ofUnchanged result with ⟨calls, ofNode⟩
  rcases ofNode node () rfl with ⟨sameLeaves, -⟩
  refine
    ⟨distinctNode, distinctEdited, result, calls, sameLeaves rfl, ?_⟩
  intro same
  cases same ["extra"]

/-- An empty object is taken out, which is no change to the leaves. -/
theorem editNode_unchanged_not_sameValue :
    let node : Document :=
      .collection .mapping [("extra", .collection .mapping [])]
    let edited : Document := .collection .mapping []
    let client := Client.showing node
    node.DistinctKeys ∧ edited.DistinctKeys
      ∧ client.answer () (.getNode "1") = (.ok node, ())
      ∧ ((editNode "1" edited .default .requireOk).run client ()).result =
          .ok .unchanged
      ∧ node.sameValue edited = false := by
  intro node edited client
  have distinctNode : node.DistinctKeys := by
    simp [node, Document.DistinctKeys, Document.DistinctKeysWithin, Keyed.keys]
  have distinctEdited : edited.DistinctKeys := by
    simp [edited, Document.DistinctKeys, Document.DistinctKeysWithin, Keyed.keys]
  exact ⟨distinctNode, distinctEdited, rfl, rfl, rfl⟩

end Service

end LeafPatch
