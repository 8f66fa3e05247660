import LeafPatch.Proofs.Patch.Clean
import LeafPatch.Service.Edit

/-!
# Edits of a stored node

An edit goes one of five ways, told apart by what the client answers and by
whether the patch is submitted.  Whatever is said of an edit is shown for each of
them.

A client keeps a node if fetching leaves the node as it is, a failed update does
so too, and an update that succeeds applies the operations to the leaves.  With
such a client an edit under the strict policy either fails and changes nothing
or makes the leaves those of the edited document.  The client may fail at any
call, and may store any document that has the right leaves.
-/

namespace LeafPatch.Service

/-! ## The ways of an edit -/

/-- How an edit goes: what is answered, what is called and how it ends. -/
inductive EditRun
    {State : Type}
    (client : Client State)
    (id : String)
    (edited : Document)
    (options : Options)
    (policy : SubmitPolicy)
    (start : State) :
    Transcript State (Except WorkflowError EditOutcome) → Prop where
  | notFetched
      {text : String}
      {fetched : State}
      (answer : client.answer start (.getNode id) = (.error text, fetched)) :
      EditRun client id edited options policy start
        ⟨.error (.client text), [.getNode id], fetched⟩
  | refused
      {node : Document}
      {fetched : State}
      {refusal : Incomplete}
      (answer : client.answer start (.getNode id) = (.ok node, fetched))
      (refuses :
        (node.patchTo edited options).submit policy = .error refusal) :
      EditRun client id edited options policy start
        ⟨.error (.submit refusal), [.getNode id], fetched⟩
  | unchanged
      {node : Document}
      {fetched : State}
      (answer : client.answer start (.getNode id) = (.ok node, fetched))
      (submits : (node.patchTo edited options).submit policy = .ok []) :
      EditRun client id edited options policy start
        ⟨.ok .unchanged, [.getNode id], fetched⟩
  | notUpdated
      {node : Document}
      {fetched updated : State}
      {operations : List Operation}
      {text : String}
      (answer : client.answer start (.getNode id) = (.ok node, fetched))
      (submits :
        (node.patchTo edited options).submit policy = .ok operations)
      (nonempty : operations ≠ [])
      (update :
        client.answer fetched (.updateNode id operations) =
          (.error text, updated)) :
      EditRun client id edited options policy start
        ⟨.error (.client text),
          [.getNode id, .updateNode id operations], updated⟩
  | updated
      {node reply : Document}
      {fetched updated : State}
      {operations : List Operation}
      (answer : client.answer start (.getNode id) = (.ok node, fetched))
      (submits :
        (node.patchTo edited options).submit policy = .ok operations)
      (nonempty : operations ≠ [])
      (update :
        client.answer fetched (.updateNode id operations) =
          (.ok reply, updated)) :
      EditRun client id edited options policy start
        ⟨.ok (.updated (node.patchTo edited options) reply),
          [.getNode id, .updateNode id operations], updated⟩

theorem run_editNode
    {State : Type}
    (client : Client State)
    (id : String)
    (edited : Document)
    (options : Options)
    (policy : SubmitPolicy)
    (start : State) :
    EditRun client id edited options policy start
      ((editNode id edited options policy).run client start) := by
  rw [editNode, Session.run_call]
  rcases answer : client.answer start (.getNode id) with ⟨reply, fetched⟩
  cases reply with
  | error text => exact .notFetched answer
  | ok node =>
      simp only [submitPatch]
      cases submits : (node.patchTo edited options).submit policy with
      | error refusal => exact .refused answer submits
      | ok operations =>
          cases operations with
          | nil => exact .unchanged answer submits
          | cons first rest =>
              simp only [List.isEmpty_cons, Bool.false_eq_true, if_false,
                Session.run_call]
              rcases update :
                  client.answer fetched (.updateNode id (first :: rest)) with
                ⟨reply, updated⟩
              cases reply with
              | error text =>
                  exact .notUpdated answer submits (List.cons_ne_nil _ _) update
              | ok reply =>
                  exact .updated answer submits (List.cons_ne_nil _ _) update

/-! ## Clients that keep a node -/

/--
A document without null or boolean whose leaves are those of another one after
operations on them.
-/
structure Patched
    (before : Document)
    (operations : List Operation)
    (after : Document) :
    Prop where
  distinct : after.DistinctKeys
  recognized : after.hasUnrecognized = false
  leaves :
    ∀ keys,
      Scalar.SameLeaf (after.scalarAt? keys)
        ((LeafStore.ofDocument .escaped "" before).run operations
          (Pointer.descend .escaped "" keys))

/-- A client that keeps one node, and fails when it likes. -/
structure Client.KeepsNode
    {State : Type}
    (client : Client State)
    (stored : State → Document) :
    Prop where
  fetched :
    ∀ {state next : State} {id : String} {node : Document},
      client.answer state (.getNode id) = (.ok node, next) →
        node = stored state
  stored_fetched :
    ∀ {state next : State} {id : String} {answer : (Call.getNode id).Answer},
      client.answer state (.getNode id) = (answer, next) →
        stored next = stored state
  stored_notUpdated :
    ∀ {state next : State} {id text : String} {operations : List Operation},
      client.answer state (.updateNode id operations) = (.error text, next) →
        stored next = stored state
  patched :
    ∀ {state next : State} {id : String} {operations : List Operation}
      {node : Document},
      client.answer state (.updateNode id operations) = (.ok node, next) →
        Patched (stored state) operations (stored next)

/-- The client does not fail at a call. -/
def Client.Answers
    {State : Type}
    (client : Client State)
    (state : State)
    (call : Call) :
    Prop :=
  ∃ reply, (client.answer state call).1 = .ok reply

/-- An edit of the whole node, to be submitted only if its patch is clean. -/
structure NodeEdit where
  id : String
  edited : Document
  detectDates : Bool

namespace NodeEdit

/-- No base path, and keys that can be told apart whatever their characters. -/
def options (edit : NodeEdit) : Options :=
  ⟨"", .escaped, edit.detectDates⟩

/-- The session that makes the edit. -/
def session (edit : NodeEdit) : Session (Except WorkflowError EditOutcome) :=
  editNode edit.id edit.edited edit.options .requireOk

theorem run_session
    {State : Type}
    (edit : NodeEdit)
    (client : Client State)
    (start : State) :
    EditRun client edit.id edit.edited edit.options .requireOk start
      (edit.session.run client start) :=
  run_editNode client edit.id edit.edited edit.options .requireOk start

end NodeEdit

/-- The state after edits one after the other, whether they fail or not. -/
def stateAfter
    {State : Type}
    (client : Client State)
    (start : State)
    (edits : List NodeEdit) :
    State :=
  edits.foldl (fun state edit => (edit.session.run client state).state) start

/-- The operations between two documents make the leaves of one those of the other. -/
theorem Patched.sameLeaf
    {before edited after : Document}
    (distinct : before.DistinctKeys)
    (distinctEdited : edited.DistinctKeys)
    (recognized : before.hasUnrecognized = false)
    (recognizedEdited : edited.hasUnrecognized = false)
    {detectDates : Bool}
    (patched :
      Patched before
        (before.patchTo edited ⟨"", .escaped, detectDates⟩).operations after)
    (keys : List String) :
    Scalar.SameLeaf (after.scalarAt? keys) (edited.scalarAt? keys) := by
  have free :=
    Document.not_blocked_of_recognized distinct distinctEdited recognized
      recognizedEdited keys
  apply (patched.leaves keys).trans
  exact
    LeafStore.sameLeaf_run_changes distinct distinctEdited
      before.legibleKeys_escaped edited.legibleKeys_escaped
      (fun key _ => Pointer.legible_escaped key) free

section Keeper

variable
    {State : Type}
    {client : Client State}
    {stored : State → Document}
    (keeps : client.KeepsNode stored)
    {edit : NodeEdit}
    {before : State}

include keeps

/-- An edit that fails leaves the stored node as it was. -/
theorem stored_of_failure
    {failure : WorkflowError}
    (failed : (edit.session.run client before).result = .error failure) :
    stored (edit.session.run client before).state = stored before := by
  have run := edit.run_session client before
  generalize edit.session.run client before = transcript at run failed ⊢
  cases run with
  | notFetched answer => exact keeps.stored_fetched answer
  | refused answer refuses => exact keeps.stored_fetched answer
  | unchanged answer submits => cases failed
  | notUpdated answer submits nonempty update =>
      exact
        (keeps.stored_notUpdated update).trans (keeps.stored_fetched answer)
  | updated answer submits nonempty update => cases failed

/-- What is stored after an edit that succeeds. -/
theorem stored_of_success
    (distinct : (stored before).DistinctKeys)
    (distinctEdited : edit.edited.DistinctKeys)
    {outcome : EditOutcome}
    (succeeded : (edit.session.run client before).result = .ok outcome) :
    let after := stored (edit.session.run client before).state
    after.DistinctKeys
      ∧ after.hasUnrecognized = false ∧ edit.edited.hasUnrecognized = false
      ∧ ∀ keys,
          Scalar.SameLeaf (after.scalarAt? keys)
            (edit.edited.scalarAt? keys) := by
  have run := edit.run_session client before
  generalize edit.session.run client before = transcript at run succeeded ⊢
  cases run with
  | notFetched answer => cases succeeded
  | refused answer refuses => cases succeeded
  | unchanged answer submits =>
      rw [keeps.fetched answer,
        Document.submit_requireOk_eq_ok_iff distinct distinctEdited] at submits
      rcases submits with ⟨⟨recognized, recognizedEdited⟩, noOperations⟩
      have free :=
        Document.not_blocked_of_recognized distinct distinctEdited recognized
          recognizedEdited
      rw [Document.patchTo_operations, List.map_eq_nil_iff,
        Document.changes_eq_nil_iff distinct distinctEdited free] at noOperations
      show (stored _).DistinctKeys ∧ _
      rw [keeps.stored_fetched answer]
      exact ⟨distinct, recognized, recognizedEdited, noOperations⟩
  | notUpdated answer submits nonempty update => cases succeeded
  | updated answer submits nonempty update =>
      rw [keeps.fetched answer,
        Document.submit_requireOk_eq_ok_iff distinct distinctEdited] at submits
      rcases submits with ⟨⟨recognized, recognizedEdited⟩, rfl⟩
      have patched := keeps.patched update
      rw [keeps.stored_fetched answer] at patched
      exact
        ⟨patched.distinct, patched.recognized, recognizedEdited,
          patched.sameLeaf distinct distinctEdited recognized
            recognizedEdited⟩

theorem fetched_eq_of_answers
    {answer : (Call.getNode edit.id).Answer}
    {fetched : State}
    (fetches : client.answer before (.getNode edit.id) = (answer, fetched))
    (answers : client.Answers before (.getNode edit.id)) :
    answer = .ok (stored before) := by
  rcases answers with ⟨node, answers⟩
  rw [fetches] at answers
  cases answers
  rw [keeps.fetched fetches]

section Recognized

variable
    (distinct : (stored before).DistinctKeys)
    (distinctEdited : edit.edited.DistinctKeys)
    (recognized : (stored before).hasUnrecognized = false)
    (recognizedEdited : edit.edited.hasUnrecognized = false)
    (answers : client.Answers before (.getNode edit.id))

include distinct distinctEdited recognized recognizedEdited answers

/-- Without nulls, booleans and failures of the client an edit succeeds. -/
theorem success_of_answers
    (updates :
      client.Answers (client.answer before (.getNode edit.id)).2
        (.updateNode edit.id
          ((stored before).patchTo edit.edited edit.options).operations)) :
    ∃ outcome, (edit.session.run client before).result = .ok outcome := by
  have run := edit.run_session client before
  generalize edit.session.run client before = transcript at run ⊢
  cases run with
  | notFetched answer => cases fetched_eq_of_answers keeps answer answers
  | refused answer refuses =>
      have submits :=
        (Document.submit_requireOk_eq_ok_iff distinct distinctEdited
          edit.options).mpr ⟨⟨recognized, recognizedEdited⟩, rfl⟩
      rw [keeps.fetched answer, submits] at refuses
      cases refuses
  | unchanged answer submits => exact ⟨_, rfl⟩
  | notUpdated answer submits nonempty update =>
      rw [keeps.fetched answer,
        Document.submit_requireOk_eq_ok_iff distinct distinctEdited] at submits
      rcases submits with ⟨-, rfl⟩
      rcases updates with ⟨reply, replies⟩
      rw [answer, update] at replies
      cases replies
  | updated answer submits nonempty update => exact ⟨_, rfl⟩

/-- An edit that is done already is found to be so. -/
theorem unchanged_of_sameLeaf
    (agree :
      ∀ keys,
        Scalar.SameLeaf ((stored before).scalarAt? keys)
          (edit.edited.scalarAt? keys)) :
    (edit.session.run client before).result = .ok .unchanged
      ∧ (edit.session.run client before).calls = [.getNode edit.id] := by
  have free :=
    Document.not_blocked_of_recognized distinct distinctEdited recognized
      recognizedEdited
  have noOperations :
      ((stored before).patchTo edit.edited edit.options).operations = [] := by
    rw [Document.patchTo_operations, List.map_eq_nil_iff]
    exact (Document.changes_eq_nil_iff distinct distinctEdited free).mpr agree
  have submitsNothing :=
    (Document.submit_requireOk_eq_ok_iff distinct distinctEdited
      edit.options).mpr ⟨⟨recognized, recognizedEdited⟩, noOperations⟩
  have run := edit.run_session client before
  generalize edit.session.run client before = transcript at run ⊢
  cases run with
  | notFetched answer => cases fetched_eq_of_answers keeps answer answers
  | refused answer refuses =>
      rw [keeps.fetched answer, submitsNothing] at refuses
      cases refuses
  | unchanged answer submits => exact ⟨rfl, rfl⟩
  | notUpdated answer submits nonempty update =>
      rw [keeps.fetched answer, submitsNothing] at submits
      cases submits
      exact absurd rfl nonempty
  | updated answer submits nonempty update =>
      rw [keeps.fetched answer, submitsNothing] at submits
      cases submits
      exact absurd rfl nonempty

end Recognized

/-! ## Runs of edits -/

theorem distinctKeys_stateAfter
    {start : State}
    (distinct : (stored start).DistinctKeys)
    {edits : List NodeEdit}
    (distinctEdits : ∀ edit ∈ edits, edit.edited.DistinctKeys) :
    (stored (stateAfter client start edits)).DistinctKeys := by
  induction edits generalizing start with
  | nil => exact distinct
  | cons edit rest ih =>
      refine ih ?_ fun later member =>
        distinctEdits later (List.mem_cons_of_mem _ member)
      cases result : (edit.session.run client start).result with
      | error failure =>
          rw [stored_of_failure keeps result]
          exact distinct
      | ok outcome =>
          exact
            (stored_of_success keeps distinct
              (distinctEdits edit List.mem_cons_self) result).1

end Keeper

/--
Edits of a node are made one after the other, with a client that keeps it.  After
an edit that succeeds the stored leaves are by value those of the edited
document, and after one that fails the stored node is what it was.  An edit of
recognized documents fails only if the client does.

An edit to the same document, made right after one that succeeded, finds nothing
to do unless the node cannot be fetched, and calls for no update.
-/
theorem edits_converge
    {State : Type}
    {client : Client State}
    {stored : State → Document}
    (keeps : client.KeepsNode stored)
    (start : State)
    (distinct : (stored start).DistinctKeys)
    (edits : List NodeEdit)
    (distinctEdits : ∀ edit ∈ edits, edit.edited.DistinctKeys) :
    ∀ done edit rest, edits = done ++ edit :: rest →
      let before := stateAfter client start done
      let transcript := edit.session.run client before
      (∀ outcome, transcript.result = .ok outcome →
          ∀ keys,
            Scalar.SameLeaf ((stored transcript.state).scalarAt? keys)
              (edit.edited.scalarAt? keys))
        ∧ (∀ failure, transcript.result = .error failure →
            stored transcript.state = stored before)
        ∧ ((stored before).hasUnrecognized = false →
            edit.edited.hasUnrecognized = false →
            client.Answers before (.getNode edit.id) →
            client.Answers (client.answer before (.getNode edit.id)).2
              (.updateNode edit.id
                ((stored before).patchTo edit.edited edit.options).operations) →
            ∃ outcome, transcript.result = .ok outcome)
        ∧ ∀ outcome, transcript.result = .ok outcome →
            ∀ again : NodeEdit, again.edited = edit.edited →
              client.Answers transcript.state (.getNode again.id) →
                let repeated := again.session.run client transcript.state
                repeated.result = .ok .unchanged
                  ∧ repeated.calls = [.getNode again.id] := by
  intro done edit rest split before transcript
  have distinctEdited : edit.edited.DistinctKeys :=
    distinctEdits edit (by simp [split])
  have distinctBefore : (stored before).DistinctKeys := by
    apply distinctKeys_stateAfter keeps distinct
    intro earlier member
    exact distinctEdits earlier (by simp [split, member])
  refine ⟨?_, ?_, ?_, ?_⟩
  · intro outcome succeeded
    exact (stored_of_success keeps distinctBefore distinctEdited succeeded).2.2.2
  · intro failure failed
    exact stored_of_failure keeps failed
  · exact success_of_answers keeps distinctBefore distinctEdited
  · intro outcome succeeded again sameEdited answers
    rcases stored_of_success keeps distinctBefore distinctEdited succeeded with
      ⟨distinctAfter, recognized, recognizedEdited, agree⟩
    rw [← sameEdited] at distinctEdited recognizedEdited agree
    exact
      unchanged_of_sameLeaf keeps distinctAfter distinctEdited recognized
        recognizedEdited answers agree

/-! ## A client that keeps a name -/

/-- A node with nothing but a name, and at which of the next calls to fail. -/
structure NameKeeper where
  name : String
  failures : List Bool
  deriving DecidableEq

namespace NameKeeper

/-- The stored node. -/
def node (keeper : NameKeeper) : Document :=
  .collection .mapping [("name", .ofText keeper.name)]

/-- The operations that give another name, and nothing else. -/
def renaming? : List Operation → Option String
  | [⟨.replace, path, .scalar (.text name)⟩] =>
      if path = "/name" then some name else none
  | _ => none

/-- Fails as scheduled, and at every update but a new name. -/
def client : Client NameKeeper where
  answer keeper call :=
    let next : NameKeeper := { keeper with failures := keeper.failures.tail }
    if keeper.failures.headD false then
      (.error "unavailable", next)
    else
      match call with
      | .getNode _ => (.ok keeper.node, next)
      | .updateNode _ operations =>
          match renaming? operations with
          | some name =>
              let renamed : NameKeeper := { next with name := name }
              (.ok renamed.node, renamed)
          | none => (.error "not a name", next)
      | _ => (.error "not supported", next)

theorem distinctKeys_node (keeper : NameKeeper) :
    keeper.node.DistinctKeys := by
  simp [node, Document.ofText, Document.DistinctKeys,
    Document.DistinctKeysWithin, Keyed.keys]

theorem scalarAt?_node (keeper : NameKeeper) (keys : List String) :
    keeper.node.scalarAt? keys =
      if keys = ["name"] then some (.text keeper.name) else none := by
  cases keys with
  | nil => rfl
  | cons key rest =>
      rw [Document.scalarAt?_cons]
      by_cases isName : key = "name"
      · subst isName
        cases rest <;> rfl
      · simp [node, Document.find?, Keyed.find?, isName, Ne.symm isName]

theorem renaming?_eq_some_iff
    {operations : List Operation}
    {name : String} :
    renaming? operations = some name ↔
      operations = [⟨.replace, "/name", .ofText name⟩] := by
  constructor
  · intro renames
    unfold renaming? at renames
    split at renames
    · split at renames
      · cases renames
        subst_vars
        rfl
      · cases renames
    · cases renames
  · rintro rfl
    rfl

theorem patched_node
    (keeper : NameKeeper)
    (name : String)
    (failures : List Bool) :
    Patched keeper.node [⟨.replace, "/name", .ofText name⟩]
      (node ⟨name, failures⟩) := by
  refine ⟨distinctKeys_node _, rfl, ?_⟩
  intro keys
  by_cases isName : keys = ["name"]
  · subst isName
    exact Scalar.sameValue_refl _
  · have elsewhere : Pointer.descend .escaped "" keys ≠ "/name" := by
      intro same
      have samePlace :
          Pointer.descend .escaped "" keys =
            Pointer.descend .escaped "" ["name"] :=
        same
      exact
        isName
          (Pointer.descend_inj (fun key _ => Pointer.legible_escaped key)
            (fun key _ => Pointer.legible_escaped key) samePlace)
    rw [LeafStore.run_of_forall_ne _ (by simpa using elsewhere),
      LeafStore.ofDocument_descend keeper.distinctKeys_node
        keeper.node.legibleKeys_escaped fun key _ => Pointer.legible_escaped key,
      scalarAt?_node, scalarAt?_node, if_neg isName, if_neg isName]
    trivial

theorem keepsNode : client.KeepsNode node := by
  constructor
  · intro keeper next id found answers
    simp only [client] at answers
    split at answers
    · cases answers
    · cases answers
      rfl
  · intro keeper next id answer answers
    simp only [client] at answers
    split at answers
    · cases answers
      rfl
    · cases answers
      rfl
  · intro keeper next id text operations answers
    simp only [client] at answers
    split at answers
    · cases answers
      rfl
    · split at answers
      · cases answers
      · cases answers
        rfl
  · intro keeper next id operations reply answers
    simp only [client] at answers
    split at answers
    · cases answers
    · split at answers
      · next name renames =>
          cases answers
          rw [renaming?_eq_some_iff.mp renames]
          exact patched_node keeper name _
      · cases answers

end NameKeeper

/--
The node cannot be stored at first, then an edit with a null is refused, and then
the first edit is made again and again.
-/
theorem edits_converge_thirdTime :
    let start : NameKeeper := ⟨"old", [false, true]⟩
    let rename : NodeEdit :=
      ⟨"1", .collection .mapping [("name", .ofText "new")], false⟩
    let erase : NodeEdit :=
      ⟨"1", .collection .mapping [("name", .unrecognized .null)], false⟩
    let edits := [rename, erase, rename]
    let failed := stateAfter NameKeeper.client start [rename]
    let refused := stateAfter NameKeeper.client start [rename, erase]
    let renamed := rename.session.run NameKeeper.client refused
    NameKeeper.client.KeepsNode NameKeeper.node
      ∧ start.node.DistinctKeys
      ∧ (∀ edit ∈ edits, edit.edited.DistinctKeys)
      ∧ failed.node = start.node
      ∧ refused.node = failed.node
      ∧ (∃ outcome, renamed.result = .ok outcome)
      ∧ (∀ keys,
          Scalar.SameLeaf (renamed.state.node.scalarAt? keys)
            (rename.edited.scalarAt? keys))
      ∧ (rename.session.run NameKeeper.client renamed.state).result =
          .ok .unchanged := by
  intro start rename erase edits failed refused renamed
  have distinctEdits : ∀ edit ∈ edits, edit.edited.DistinctKeys := by
    simp [edits, rename, erase, Document.ofText, Document.DistinctKeys,
      Document.DistinctKeysWithin, Keyed.keys]
  have converge :=
    edits_converge NameKeeper.keepsNode start start.distinctKeys_node edits
      distinctEdits
  rcases converge [] rename [erase, rename] rfl with ⟨-, notStored, -⟩
  rcases converge [rename] erase [rename] rfl with ⟨-, notSubmitted, -⟩
  rcases converge [rename, erase] rename [] rfl with
    ⟨stored, -, succeeds, repeated⟩
  have kept : failed.node = start.node := notStored (.client "unavailable") rfl
  have keptAgain : refused.node = failed.node :=
    notSubmitted (.submit ⟨.error⟩) rfl
  have isRefused : refused = ⟨"old", []⟩ := by decide +kernel
  have fetches : NameKeeper.client.Answers refused (.getNode "1") := by
    rw [isRefused]
    exact ⟨_, rfl⟩
  have stores :
      NameKeeper.client.Answers
        (NameKeeper.client.answer refused (.getNode "1")).2
        (.updateNode "1"
          (refused.node.patchTo rename.edited rename.options).operations) := by
    rw [isRefused]
    exact ⟨_, rfl⟩
  rcases succeeds rfl rfl fetches stores with ⟨outcome, succeeded⟩
  have isRenamed : renamed.state = ⟨"new", []⟩ := by decide +kernel
  have answers : NameKeeper.client.Answers renamed.state (.getNode "1") := by
    rw [isRenamed]
    exact ⟨_, rfl⟩
  exact
    ⟨NameKeeper.keepsNode, start.distinctKeys_node, distinctEdits, kept,
      keptAgain, ⟨outcome, succeeded⟩, stored outcome succeeded,
      (repeated outcome succeeded rename rfl answers).1⟩

end LeafPatch.Service
