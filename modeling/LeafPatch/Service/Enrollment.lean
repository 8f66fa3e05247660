import LeafPatch.Service.DriverProperty
import LeafPatch.Service.Session

/-!
# Enrolling a node

A node is enrolled by creating it with its driver properties merged in.  On
request it is then made manageable, under the identifier with which the service
created it.
-/

namespace LeafPatch.Service

/-- Everything that is needed to enroll a node. -/
structure Enrollment where
  node : Collection
  properties : List (String × DriverProperty)
  /-- Whether the node is to be made manageable. -/
  manage : Bool

/-- The key under which a node has its identifier. -/
def identifierKey : String :=
  "uuid"

/-- The verb that asks for a node to be made manageable. -/
def manageVerb : String :=
  "manage"

/-- The identifier of a node, if it is a string. -/
def identifier? (node : Document) : Option String :=
  (node.find? identifierKey).bind Document.text?

namespace Enrollment

/-- The node to be created. -/
def merged (enrollment : Enrollment) : Document :=
  (mergeDriverProperties enrollment.node enrollment.properties).toDocument

/-- Makes a node that has been created manageable. -/
def makeManageable
    (created : Document) :
    Session (Except WorkflowError Document) :=
  match identifier? created with
  | none => .done (.error (.missingField identifierKey))
  | some id =>
      .call (.setProvisionState id manageVerb) fun
        | .error text => .done (.error (.client text))
        | .ok () => .done (.ok created)

/-- Enrolls a node. -/
def session
    (enrollment : Enrollment) :
    Session (Except WorkflowError Document) :=
  .call (.createNode enrollment.merged) fun
    | .error text => .done (.error (.client text))
    | .ok created =>
        if enrollment.manage then
          makeManageable created
        else
          .done (.ok created)

end Enrollment

end LeafPatch.Service
