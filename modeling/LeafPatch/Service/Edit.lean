import LeafPatch.Patch.Draft
import LeafPatch.Service.Session

/-!
# Editing a node

A node is edited by fetching what is stored, comparing it with the edited
document and submitting the patch between them.  A patch that the policy refuses
and a patch without operations are not submitted.
-/

namespace LeafPatch.Service

/-- What an edit that did not fail did. -/
inductive EditOutcome where
  | unchanged
  | updated (patch : Patch) (node : Document)

/-- Submits a patch for a node. -/
def submitPatch
    (id : String)
    (patch : Patch)
    (policy : SubmitPolicy) :
    Session (Except WorkflowError EditOutcome) :=
  match patch.submit policy with
  | .error refusal => .done (.error (.submit refusal))
  | .ok operations =>
      if operations.isEmpty then
        .done (.ok .unchanged)
      else
        .call (.updateNode id operations) fun
          | .error text => .done (.error (.client text))
          | .ok node => .done (.ok (.updated patch node))

/-- Edits a node. -/
def editNode
    (id : String)
    (edited : Document)
    (options : Options)
    (policy : SubmitPolicy) :
    Session (Except WorkflowError EditOutcome) :=
  .call (.getNode id) fun
    | .error text => .done (.error (.client text))
    | .ok stored => submitPatch id (stored.patchTo edited options) policy

end LeafPatch.Service
