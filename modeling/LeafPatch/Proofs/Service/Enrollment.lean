import LeafPatch.Service.Enrollment

/-!
# The calls of an enrollment

An enrollment creates the node, and it may ask for the node to be made manageable
then; it never calls for anything else.  It goes one of five ways, told apart by
the answers of the client, by what is asked for and by whether the created node
has an identifier.

The identifier is taken from what the client answers, not from what was sent, and
only a string counts as one.  So whatever the client answers, a transition is
asked for under an identifier that the service has given.
-/

namespace LeafPatch.Service

theorem identifier?_eq_some_iff
    {node : Document}
    {id : String} :
    identifier? node = some id ↔
      node.find? identifierKey = some (.ofText id) := by
  rw [identifier?, Option.bind_eq_some_iff]
  constructor
  · rintro ⟨field, isField, isText⟩
    unfold Document.text? at isText
    split at isText
    · cases isText
      exact isField
    · cases isText
  · intro isField
    exact ⟨_, isField, rfl⟩

theorem identifier?_eq_none_iff {node : Document} :
    identifier? node = none ↔
      ∀ id, node.find? identifierKey ≠ some (.ofText id) := by
  simp only [Option.eq_none_iff_forall_ne_some, ne_eq, identifier?_eq_some_iff]

/-- A client that answers with one node whatever it is to create, and moves any. -/
def Client.creating (node : Document) : Client Unit where
  answer _ call :=
    match call with
    | .getNode _ => (.error "not supported", ())
    | .createNode _ => (.ok node, ())
    | .updateNode _ _ => (.error "not supported", ())
    | .deleteNode _ => (.error "not supported", ())
    | .setProvisionState _ _ => (.ok (), ())

namespace Enrollment

/-- How an enrollment goes: what is answered, what is called and how it ends. -/
inductive Run
    {State : Type}
    (client : Client State)
    (enrollment : Enrollment)
    (start : State) :
    Transcript State (Except WorkflowError Document) → Prop where
  | notCreated
      {text : String}
      {next : State}
      (answer :
        client.answer start (.createNode enrollment.merged) =
          (.error text, next)) :
      Run client enrollment start
        ⟨.error (.client text), [.createNode enrollment.merged], next⟩
  | created
      {node : Document}
      {next : State}
      (answer :
        client.answer start (.createNode enrollment.merged) = (.ok node, next))
      (unmanaged : enrollment.manage = false) :
      Run client enrollment start
        ⟨.ok node, [.createNode enrollment.merged], next⟩
  | unidentified
      {node : Document}
      {next : State}
      (answer :
        client.answer start (.createNode enrollment.merged) = (.ok node, next))
      (manage : enrollment.manage = true)
      (nameless : identifier? node = none) :
      Run client enrollment start
        ⟨.error (.missingField identifierKey),
          [.createNode enrollment.merged], next⟩
  | notMoved
      {node : Document}
      {id text : String}
      {next moved : State}
      (answer :
        client.answer start (.createNode enrollment.merged) = (.ok node, next))
      (manage : enrollment.manage = true)
      (named : identifier? node = some id)
      (move :
        client.answer next (.setProvisionState id manageVerb) =
          (.error text, moved)) :
      Run client enrollment start
        ⟨.error (.client text),
          [.createNode enrollment.merged, .setProvisionState id manageVerb],
          moved⟩
  | managed
      {node : Document}
      {id : String}
      {next moved : State}
      (answer :
        client.answer start (.createNode enrollment.merged) = (.ok node, next))
      (manage : enrollment.manage = true)
      (named : identifier? node = some id)
      (move :
        client.answer next (.setProvisionState id manageVerb) =
          (.ok (), moved)) :
      Run client enrollment start
        ⟨.ok node,
          [.createNode enrollment.merged, .setProvisionState id manageVerb],
          moved⟩

section Ways

variable
    {State : Type}
    {client : Client State}
    {enrollment : Enrollment}
    {start : State}

theorem run_session
    (client : Client State)
    (enrollment : Enrollment)
    (start : State) :
    Run client enrollment start (enrollment.session.run client start) := by
  rw [session, Session.run_call]
  rcases answer : client.answer start (.createNode enrollment.merged) with
    ⟨reply, next⟩
  cases reply with
  | error text => exact .notCreated answer
  | ok node =>
      dsimp only
      cases manage : enrollment.manage with
      | false => exact .created answer manage
      | true =>
          rw [if_pos rfl, makeManageable]
          cases named : identifier? node with
          | none => exact .unidentified answer manage named
          | some id =>
              dsimp only
              rw [Session.run_call]
              rcases move :
                  client.answer next (.setProvisionState id manageVerb) with
                ⟨reply, moved⟩
              cases reply with
              | error text => exact .notMoved answer manage named move
              | ok done => exact .managed answer manage named move

/-- What holds of a node that has been created holds of the one that the client answers. -/
theorem exists_created_iff
    {node : Document}
    {next : State}
    {holds : Document → State → Prop}
    (answer :
      client.answer start (.createNode enrollment.merged) = (.ok node, next)) :
    (∃ created after,
        client.answer start (.createNode enrollment.merged) =
            (.ok created, after)
          ∧ holds created after) ↔
      holds node next := by
  rw [answer]
  constructor
  · rintro ⟨created, after, ⟨⟩, holds⟩
    exact holds
  · intro holds
    exact ⟨node, next, rfl, holds⟩

variable
    {transcript : Transcript State (Except WorkflowError Document)}
    (run : Run client enrollment start transcript)

include run

/-- An enrollment creates the node and may then have it made manageable, once. -/
theorem Run.calls_eq :
    transcript.calls = [.createNode enrollment.merged]
      ∨ ∃ id,
          transcript.calls =
            [.createNode enrollment.merged,
              .setProvisionState id manageVerb] := by
  cases run with
  | notCreated answer => exact Or.inl rfl
  | created answer unmanaged => exact Or.inl rfl
  | unidentified answer manage nameless => exact Or.inl rfl
  | notMoved answer manage named move => exact Or.inr ⟨_, rfl⟩
  | managed answer manage named move => exact Or.inr ⟨_, rfl⟩

/-- A transition is asked for exactly if it can be. -/
theorem Run.calls_eq_manage_iff (id : String) :
    transcript.calls =
        [.createNode enrollment.merged, .setProvisionState id manageVerb] ↔
      ∃ node next,
        client.answer start (.createNode enrollment.merged) = (.ok node, next)
          ∧ enrollment.manage = true
          ∧ identifier? node = some id := by
  cases run with
  | notCreated answer => simp [answer]
  | created answer unmanaged => simp [unmanaged]
  | unidentified answer manage nameless => simp [answer, nameless]
  | notMoved answer manage named move =>
      rw [exists_created_iff answer]
      simp [manage, named]
  | managed answer manage named move =>
      rw [exists_created_iff answer]
      simp [manage, named]

/-- An enrollment succeeds exactly if all goes well that has to. -/
theorem Run.result_eq_ok_iff (created : Document) :
    transcript.result = .ok created ↔
      ∃ node next,
        client.answer start (.createNode enrollment.merged) = (.ok node, next)
          ∧ node = created
          ∧ (enrollment.manage = true →
              ∃ id, identifier? node = some id
                ∧ (client.answer next (.setProvisionState id manageVerb)).1 =
                    .ok ()) := by
  cases run with
  | notCreated answer => simp [answer]
  | created answer unmanaged =>
      rw [exists_created_iff answer]
      simp [unmanaged]
  | unidentified answer manage nameless =>
      rw [exists_created_iff answer]
      simp [manage, nameless]
  | notMoved answer manage named move =>
      rw [exists_created_iff answer]
      simp [manage, named, move]
  | managed answer manage named move =>
      rw [exists_created_iff answer]
      simp [manage, named, move]

theorem Run.result_eq_missingField_iff (field : String) :
    transcript.result = .error (.missingField field) ↔
      field = identifierKey
        ∧ ∃ node next,
            client.answer start (.createNode enrollment.merged) =
                (.ok node, next)
              ∧ enrollment.manage = true
              ∧ identifier? node = none := by
  cases run with
  | notCreated answer => simp [answer]
  | created answer unmanaged => simp [unmanaged]
  | unidentified answer manage nameless =>
      rw [exists_created_iff answer]
      simp [manage, nameless, eq_comm]
  | notMoved answer manage named move => simp [answer, named]
  | managed answer manage named move => simp [answer, named]

/-- The error of the client is that of the call that failed. -/
theorem Run.result_eq_client_iff (text : String) :
    transcript.result = .error (.client text) ↔
      (client.answer start (.createNode enrollment.merged)).1 = .error text
        ∨ ∃ node next,
            client.answer start (.createNode enrollment.merged) =
                (.ok node, next)
              ∧ enrollment.manage = true
              ∧ ∃ id, identifier? node = some id
                ∧ (client.answer next (.setProvisionState id manageVerb)).1 =
                    .error text := by
  cases run with
  | notCreated answer => simp [answer]
  | created answer unmanaged => simp [answer, unmanaged]
  | unidentified answer manage nameless => simp [answer, nameless]
  | notMoved answer manage named move =>
      rw [exists_created_iff answer]
      simp [answer, manage, named, move]
  | managed answer manage named move =>
      rw [exists_created_iff answer]
      simp [answer, manage, named, move]

theorem Run.result_ne_submit (refusal : Incomplete) :
    transcript.result ≠ .error (.submit refusal) := by
  cases run <;> rintro ⟨⟩

end Ways

/--
An enrollment creates the node with its driver properties merged in, once and
before anything else.  Then it may ask once for the node to be made manageable,
and it calls for nothing more.  It asks exactly if the node has been created, that
is wanted, and the created node has a string as its identifier, under which it
asks then.

It succeeds with the created node exactly if the node has been created and,
where it is to be made manageable, has an identifier and has been made so.  A
created node that is to be made manageable and has no identifier lacks a field,
and every other failure is that of the client in the call that failed.
-/
theorem session_calls
    {State : Type}
    (client : Client State)
    (start : State)
    (enrollment : Enrollment) :
    let create :=
      Call.createNode
        (mergeDriverProperties enrollment.node
          enrollment.properties).toDocument
    let manage (id : String) := Call.setProvisionState id "manage"
    let transcript := enrollment.session.run client start
    (transcript.calls = [create]
        ∨ ∃ id, transcript.calls = [create, manage id])
      ∧ (∀ id, transcript.calls = [create, manage id] ↔
          ∃ node next, client.answer start create = (.ok node, next)
            ∧ enrollment.manage = true
            ∧ node.find? "uuid" = some (.ofText id))
      ∧ (∀ created, transcript.result = .ok created ↔
          ∃ node next, client.answer start create = (.ok node, next)
            ∧ node = created
            ∧ (enrollment.manage = true →
                ∃ id, node.find? "uuid" = some (.ofText id)
                  ∧ (client.answer next (manage id)).1 = .ok ()))
      ∧ (∀ field, transcript.result = .error (.missingField field) ↔
          field = "uuid"
            ∧ ∃ node next, client.answer start create = (.ok node, next)
              ∧ enrollment.manage = true
              ∧ ∀ id, node.find? "uuid" ≠ some (.ofText id))
      ∧ (∀ text, transcript.result = .error (.client text) ↔
          (client.answer start create).1 = .error text
            ∨ ∃ node next, client.answer start create = (.ok node, next)
              ∧ enrollment.manage = true
              ∧ ∃ id, node.find? "uuid" = some (.ofText id)
                ∧ (client.answer next (manage id)).1 = .error text)
      ∧ ∀ refusal, transcript.result ≠ .error (.submit refusal) := by
  intro create manage transcript
  have run : Run client enrollment start transcript :=
    run_session client enrollment start
  have asked := run.calls_eq_manage_iff
  have succeeded := run.result_eq_ok_iff
  have lacking := run.result_eq_missingField_iff
  have failed := run.result_eq_client_iff
  simp only [identifier?_eq_some_iff] at asked succeeded failed
  simp only [identifier?_eq_none_iff] at lacking
  exact
    ⟨run.calls_eq, asked, succeeded, lacking, failed, run.result_ne_submit⟩

/-- The node is created under an identifier that was not sent, and moved under it. -/
theorem session_calls_moved :
    let created : Document :=
      .collection .mapping [("uuid", .ofText "1be2"), ("name", .ofText "rack")]
    let enrollment : Enrollment :=
      { node := ⟨.mapping, [("name", .ofText "rack")]⟩
        properties := [("user", ⟨some "admin", none, true⟩)]
        manage := true }
    let transcript := enrollment.session.run (Client.creating created) ()
    transcript.calls =
        [.createNode
            (.collection .mapping
              [("name", .ofText "rack"),
                ("driver_info",
                  .collection .mapping [("user", .ofText "admin")])]),
          .setProvisionState "1be2" "manage"]
      ∧ transcript.result = .ok created := by
  intro created enrollment transcript
  rcases session_calls (Client.creating created) () enrollment with
    ⟨-, asked, succeeded, -⟩
  constructor
  · exact (asked "1be2").mpr ⟨created, (), rfl, rfl, rfl⟩
  · refine (succeeded created).mpr ⟨created, (), rfl, rfl, fun _ => ?_⟩
    exact ⟨"1be2", rfl, rfl⟩

end Enrollment

end LeafPatch.Service
