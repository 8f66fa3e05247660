import LeafPatch.Patch.Basic

/-!
# Sessions with a bare-metal service

A workflow talks to the service through a client.  It is a session: either it is
done with a result, or it makes a call and goes on with whatever the client
answers.  A client is anything that answers each call, out of a state that its
answers may change.

Running a session against a client gives its result, the calls that it made and
the state that the client is left in.
-/

namespace LeafPatch.Service

/-- A call to the service. -/
inductive Call where
  | getNode (id : String)
  | createNode (node : Document)
  | updateNode (id : String) (operations : List Operation)
  | deleteNode (id : String)
  | setProvisionState (id verb : String)

/-- What a call answers when it succeeds. -/
abbrev Call.Reply : Call → Type
  | getNode _ => Document
  | createNode _ => Document
  | updateNode _ _ => Document
  | deleteNode _ => Unit
  | setProvisionState _ _ => Unit

/-- The answer of a client: the text of an error or the reply to the call. -/
abbrev Call.Answer (call : Call) : Type :=
  Except String call.Reply

/-- A workflow, up to the answers to its calls. -/
inductive Session (Result : Type) where
  | done (result : Result)
  | call (request : Call) (next : request.Answer → Session Result)

/-- Something that answers calls. -/
structure Client (State : Type) where
  answer : (state : State) → (call : Call) → call.Answer × State

/-- What is left of a session that has been run. -/
structure Transcript (State Result : Type) where
  result : Result
  calls : List Call
  state : State

namespace Session

/-- Runs a session against a client. -/
def run {State Result : Type}
    (client : Client State)
    (state : State) :
    Session Result → Transcript State Result
  | done result => ⟨result, [], state⟩
  | call request next =>
      let (answer, state) := client.answer state request
      let rest := run client state (next answer)
      { rest with calls := request :: rest.calls }

@[simp]
theorem run_done
    {State Result : Type}
    (client : Client State)
    (state : State)
    (result : Result) :
    run client state (done result) = ⟨result, [], state⟩ :=
  rfl

@[simp]
theorem run_call
    {State Result : Type}
    (client : Client State)
    (state : State)
    (request : Call)
    (next : request.Answer → Session Result) :
    run client state (call request next) =
      let answered := client.answer state request
      let rest := run client answered.2 (next answered.1)
      ⟨rest.result, request :: rest.calls, rest.state⟩ :=
  rfl

end Session

/-- Why a workflow fails. -/
inductive WorkflowError where
  /-- A call failed. -/
  | client (text : String)
  /-- The patch is not clean enough for the policy. -/
  | submit (refusal : Incomplete)
  /-- A reply lacks a field that the workflow goes on with. -/
  | missingField (name : String)
  deriving DecidableEq

namespace WorkflowError

/-- The text of the error. -/
def message : WorkflowError → String
  | client text => "ironic client error: " ++ text
  | submit refusal => refusal.message
  | missingField name => "response is missing field " ++ name

end WorkflowError

end LeafPatch.Service
