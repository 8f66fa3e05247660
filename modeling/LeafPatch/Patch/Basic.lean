import LeafPatch.Document.Basic
import LeafPatch.Patch.Status

/-!
# Patches

A patch is a list of operations on single leaves, each naming the leaf by a
pointer and carrying its value, together with a status.  A removal carries the
value that is removed.

A patch that is not clean says less than what differs.  It is submitted only
under a policy that allows this.
-/

namespace LeafPatch

/-- What an operation does to its leaf. -/
inductive Action where
  | add
  | remove
  | replace
  deriving DecidableEq, Inhabited

namespace Action

/-- The name under which an action is written. -/
def name : Action → String
  | add => "add"
  | remove => "remove"
  | replace => "replace"

/-- All actions. -/
def all : List Action :=
  [add, remove, replace]

end Action

/-- One operation of a patch. -/
structure Operation where
  action : Action
  path : String
  value : Document
  deriving Inhabited

/-- A list of operations and how faithful it is. -/
structure Patch where
  operations : List Operation
  status : Status
  deriving Inhabited

/-- Whether a patch that is not clean may be submitted. -/
inductive SubmitPolicy where
  | requireOk
  | allowPartial
  deriving DecidableEq, Inhabited

/-- Why a patch is not submitted: it is not clean. -/
structure Incomplete where
  status : Status
  deriving DecidableEq

namespace Incomplete

/-- The text of the error. -/
def message (refusal : Incomplete) : String :=
  "refusing to submit incomplete patch (status "
    ++ refusal.status.name ++ ")"

end Incomplete

namespace Operation

/-- Equality by value. -/
def sameValue (left right : Operation) : Bool :=
  left.action == right.action
    && left.path == right.path
    && left.value.sameValue right.value

end Operation

namespace Patch

/-- No operations, and nothing left out. -/
def empty : Patch :=
  ⟨[], .ok⟩

/-- The number of operations. -/
def size (patch : Patch) : Nat :=
  patch.operations.length

/-- Whether there are no operations. -/
def isEmpty (patch : Patch) : Bool :=
  patch.operations.isEmpty

/-- Equality by value, operation by operation. -/
def sameValue (left right : Patch) : Bool :=
  left.status == right.status
    && left.operations.length == right.operations.length
    && (left.operations.zip right.operations).all
      fun pair => pair.1.sameValue pair.2

/-- The operations to submit under a policy. -/
def submit
    (patch : Patch)
    (policy : SubmitPolicy) :
    Except Incomplete (List Operation) :=
  if patch.status.isOk then
    .ok patch.operations
  else
    match policy with
    | .requireOk => .error ⟨patch.status⟩
    | .allowPartial => .ok patch.operations

end Patch

end LeafPatch
