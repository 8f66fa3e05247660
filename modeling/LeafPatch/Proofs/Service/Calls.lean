import LeafPatch.Proofs.Service.Edit

/-!
# The calls of an edit

An edit fetches the node, and it may update it then; it never calls for anything
else.  Whether it updates the node can be told from the fetched document and the
edited one, without their patch: the policy has to admit the two, and they have to
differ in a leaf that is not blocked.

How the client answers decides the rest.  A call that fails ends the edit with
the error of the client.
-/

namespace LeafPatch

namespace Document

/--
At a place that is not blocked the documents have different leaves, or only one
of them has a leaf.
-/
def Differ (source target : Document) : Prop :=
  ∃ keys, ¬ Blocked source target keys
    ∧ ¬ Scalar.SameLeaf (source.scalarAt? keys) (target.scalarAt? keys)

section Submitted

variable
    {source target : Document}
    (distinctSource : source.DistinctKeys)
    (distinctTarget : target.DistinctKeys)
    (options : Options)

include distinctSource distinctTarget

theorem operations_patchTo_ne_nil_iff :
    (source.patchTo target options).operations ≠ [] ↔
      source.Differ target := by
  rw [ne_eq, patchTo_operations, List.map_eq_nil_iff,
    changes_eq_nil_iff_of_not_blocked distinctSource distinctTarget, Differ]
  simp only [not_forall, exists_prop]

end Submitted

end Document

namespace Service

section Ways

variable
    {State : Type}
    {client : Client State}
    {id : String}
    {edited : Document}
    {options : Options}
    {policy : SubmitPolicy}
    {start : State}

/-- What has been submitted is what could be submitted. -/
theorem update_eq_iff_of_submits
    {found : Document}
    {next : State}
    {sent operations : List Operation}
    (answer : client.answer start (.getNode id) = (.ok found, next))
    (submits : (found.patchTo edited options).submit policy = .ok sent)
    (nonempty : sent ≠ []) :
    [Call.getNode id, .updateNode id sent] =
        [.getNode id, .updateNode id operations] ↔
      ∃ node fetched, client.answer start (.getNode id) = (.ok node, fetched)
        ∧ (node.patchTo edited options).submit policy = .ok operations
        ∧ operations ≠ [] := by
  simp only [answer]
  constructor
  · rintro ⟨⟩
    exact ⟨found, next, rfl, submits, nonempty⟩
  · rintro ⟨node, fetched, ⟨⟩, same, -⟩
    cases submits.symm.trans same
    rfl

variable
    {transcript : Transcript State (Except WorkflowError EditOutcome)}
    (run : EditRun client id edited options policy start transcript)

include run

/-- An edit goes each of its ways whenever it can, so it can go one way only. -/
theorem EditRun.eq_run :
    (editNode id edited options policy).run client start = transcript := by
  cases run with
  | notFetched answer => simp [editNode, answer]
  | refused answer refuses => simp [editNode, submitPatch, answer, refuses]
  | unchanged answer submits => simp [editNode, submitPatch, answer, submits]
  | notUpdated answer submits nonempty update =>
      simp [editNode, submitPatch, answer, submits, nonempty, update]
  | updated answer submits nonempty update =>
      simp [editNode, submitPatch, answer, submits, nonempty, update]

/-- An edit fetches the node and may then update it, once. -/
theorem EditRun.calls_eq :
    transcript.calls = [.getNode id]
      ∨ ∃ operations,
          transcript.calls = [.getNode id, .updateNode id operations]
            ∧ operations ≠ [] := by
  cases run with
  | notFetched answer => exact Or.inl rfl
  | refused answer refuses => exact Or.inl rfl
  | unchanged answer submits => exact Or.inl rfl
  | notUpdated answer submits nonempty update =>
      exact Or.inr ⟨_, rfl, nonempty⟩
  | updated answer submits nonempty update =>
      exact Or.inr ⟨_, rfl, nonempty⟩

/-- The node is updated exactly if it is fetched and a patch that is not empty submitted. -/
theorem EditRun.calls_eq_update_iff {operations : List Operation} :
    transcript.calls = [.getNode id, .updateNode id operations] ↔
      ∃ node fetched, client.answer start (.getNode id) = (.ok node, fetched)
        ∧ (node.patchTo edited options).submit policy = .ok operations
        ∧ operations ≠ [] := by
  cases run with
  | notFetched answer => simp [answer]
  | refused answer refuses => simp [answer, refuses]
  | unchanged answer submits => simp [answer, submits, eq_comm]
  | notUpdated answer submits nonempty update =>
      exact update_eq_iff_of_submits answer submits nonempty
  | updated answer submits nonempty update =>
      exact update_eq_iff_of_submits answer submits nonempty

end Ways

/--
An edit fetches the node, and then it may update it once; it calls for nothing
else.  It updates the node exactly if it has been fetched, the policy admits the
fetched document and the edited one, and the two differ in a leaf.  What it sends
is their patch, which has operations.

A call that fails ends the edit with the error of the client.  Documents that the
policy does not admit are refused with the status of their patch, and documents
that do not differ leave the node unchanged, both without another call.  An
update that succeeds ends the edit with the patch that was sent and the node that
the client answered.
-/
theorem editNode_calls
    {State : Type}
    (client : Client State)
    (start : State)
    (id : String)
    (edited : Document)
    (options : Options)
    (policy : SubmitPolicy)
    (distinctEdited : edited.DistinctKeys)
    (distinctNode :
      ∀ node next, client.answer start (.getNode id) = (.ok node, next) →
        node.DistinctKeys) :
    let transcript := (editNode id edited options policy).run client start
    (transcript.calls = [.getNode id]
        ∨ ∃ operations,
            transcript.calls = [.getNode id, .updateNode id operations]
              ∧ operations ≠ [])
      ∧ (∀ operations,
          transcript.calls = [.getNode id, .updateNode id operations] ↔
            ∃ node fetched,
              client.answer start (.getNode id) = (.ok node, fetched)
                ∧ policy.Admits node edited ∧ node.Differ edited
                ∧ operations = (node.patchTo edited options).operations)
      ∧ (∀ text fetched,
          client.answer start (.getNode id) = (.error text, fetched) →
            transcript = ⟨.error (.client text), [.getNode id], fetched⟩)
      ∧ ∀ node fetched,
          client.answer start (.getNode id) = (.ok node, fetched) →
            let patch := node.patchTo edited options
            let update := Call.updateNode id patch.operations
            (¬ policy.Admits node edited →
                policy = .requireOk
                  ∧ transcript =
                      ⟨.error (.submit ⟨patch.status⟩), [.getNode id], fetched⟩)
              ∧ (policy.Admits node edited → ¬ node.Differ edited →
                  transcript = ⟨.ok .unchanged, [.getNode id], fetched⟩)
              ∧ (policy.Admits node edited → node.Differ edited →
                  (∀ text updated,
                      client.answer fetched update = (.error text, updated) →
                        transcript =
                          ⟨.error (.client text), [.getNode id, update],
                            updated⟩)
                    ∧ ∀ reply updated,
                        client.answer fetched update = (.ok reply, updated) →
                          transcript =
                            ⟨.ok (.updated patch reply), [.getNode id, update],
                              updated⟩) := by
  intro transcript
  have run : EditRun client id edited options policy start transcript :=
    run_editNode client id edited options policy start
  refine ⟨run.calls_eq, ?_, ?_, ?_⟩
  · intro operations
    rw [run.calls_eq_update_iff]
    refine exists_congr fun node => exists_congr fun fetched => ?_
    refine and_congr_right fun answer => ?_
    have distinct := distinctNode node fetched answer
    rw [Document.submit_patchTo_eq_ok_iff distinct distinctEdited, and_assoc]
    refine and_congr_right fun _ => ?_
    rw [← Document.operations_patchTo_ne_nil_iff distinct distinctEdited options]
    constructor
    · rintro ⟨rfl, nonempty⟩
      exact ⟨nonempty, rfl⟩
    · rintro ⟨nonempty, rfl⟩
      exact ⟨rfl, nonempty⟩
  · intro text fetched answer
    exact (EditRun.notFetched answer).eq_run
  · intro node fetched answer patch update
    have distinct := distinctNode node fetched answer
    have nonempty_iff : patch.operations ≠ [] ↔ node.Differ edited :=
      Document.operations_patchTo_ne_nil_iff distinct distinctEdited options
    have submits (admits : policy.Admits node edited) :
        patch.submit policy = .ok patch.operations :=
      (Document.submit_patchTo_eq_ok_iff distinct distinctEdited options).mpr
        ⟨admits, rfl⟩
    refine ⟨?_, ?_, ?_⟩
    · intro refused
      constructor
      · cases policy with
        | requireOk => rfl
        | allowPartial => exact absurd (Or.inl rfl) refused
      · have refuses : patch.submit policy = .error ⟨patch.status⟩ :=
          (Document.submit_patchTo_eq_error_iff distinct distinctEdited
            options).mpr ⟨refused, rfl⟩
        exact (EditRun.refused answer refuses).eq_run
    · intro admits same
      have empty : patch.operations = [] :=
        Classical.not_not.mp fun nonempty => same (nonempty_iff.mp nonempty)
      have nothing := submits admits
      rw [empty] at nothing
      exact (EditRun.unchanged answer nothing).eq_run
    · intro admits differ
      have nonempty := nonempty_iff.mpr differ
      constructor
      · intro text updated answers
        exact
          (EditRun.notUpdated answer (submits admits) nonempty answers).eq_run
      · intro reply updated answers
        exact (EditRun.updated answer (submits admits) nonempty answers).eq_run

/--
A node gets another name and a null.  The strict policy refuses this before
anything is stored; otherwise the name alone is sent.
-/
theorem editNode_calls_newName :
    let start : NameKeeper := ⟨"old", []⟩
    let edited : Document :=
      .collection .mapping
        [("name", .ofText "new"), ("extra", .unrecognized .null)]
    let rename : Operation := ⟨.replace, "/name", .ofText "new"⟩
    let run (policy : SubmitPolicy) :=
      (editNode "1" edited .default policy).run NameKeeper.client start
    start.node.DistinctKeys ∧ edited.DistinctKeys
      ∧ start.node.Differ edited
      ∧ run .requireOk =
          ⟨.error (.submit ⟨.unknownType⟩), [.getNode "1"], start⟩
      ∧ run .allowPartial =
          ⟨.ok (.updated ⟨[rename], .unknownType⟩ (NameKeeper.node ⟨"new", []⟩)),
            [.getNode "1", .updateNode "1" [rename]], ⟨"new", []⟩⟩ := by
  intro start edited rename run
  have distinctEdited : edited.DistinctKeys := by
    simp [edited, Document.ofText, Document.DistinctKeys,
      Document.DistinctKeysWithin, Keyed.keys]
  have distinctNode := start.distinctKeys_node
  have admitsNot : ¬ SubmitPolicy.requireOk.Admits start.node edited := by
    rintro (⟨⟨⟩⟩ | ⟨-, ⟨⟩⟩)
  have calls (policy : SubmitPolicy) :=
    editNode_calls NameKeeper.client start "1" edited .default policy
      distinctEdited (by rintro _ _ ⟨⟩; exact distinctNode)
  rcases calls .requireOk with ⟨-, -, -, strict⟩
  rcases calls .allowPartial with ⟨-, sends, -, partially⟩
  have differ : start.node.Differ edited := by
    rcases (sends [rename]).mp rfl with ⟨node, fetched, ⟨⟩, -, differ, -⟩
    exact differ
  exact
    ⟨distinctNode, distinctEdited, differ,
      ((strict start.node start rfl).1 admitsNot).2,
      ((partially start.node start rfl).2.2 (Or.inl rfl) differ).2 _ _ rfl⟩

end Service

end LeafPatch
