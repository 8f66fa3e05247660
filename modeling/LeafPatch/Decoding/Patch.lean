import LeafPatch.Decoding.Basic
import LeafPatch.Document.Json
import LeafPatch.Patch.Basic

/-!
# Decoding patches

The decoders of what is stored about patches: actions, operations, statuses,
submission policies and whole patches.  An operation without a value has the
value null.  The operations of a patch are given under `operations` or `patch`.
-/

namespace LeafPatch

/-- Decodes a document, without detecting dates. -/
def Document.decode (found : Json) : Decoded Document :=
  .ok (ofJson false found)

/-- Decodes an action. -/
def Action.decode : Json → Decoded Action :=
  Decoded.variant all name

/-- Decodes a status. -/
def Status.decode : Json → Decoded Status :=
  Decoded.variant all name

namespace SubmitPolicy

/-- All policies. -/
def all : List SubmitPolicy :=
  [requireOk, allowPartial]

/-- The name under which a policy is stored. -/
def name : SubmitPolicy → String
  | requireOk => "RequireOk"
  | allowPartial => "AllowPartial"

/-- Decodes a policy. -/
def decode : Json → Decoded SubmitPolicy :=
  Decoded.variant all name

end SubmitPolicy

namespace Operation

/-- The name of the record in messages. -/
def recordName : String :=
  "PatchOperation"

/-- The fields of an operation that have been decoded. -/
structure Fields where
  action : Option Action
  path : Option String
  value : Option Document

/-- Decodes a field; unknown ones are passed over. -/
def decodeField (fields : Fields) (field : String × Json) : Decoded Fields :=
  match field.1 with
  | "op" => do
      let action ← Decoded.once "op" fields.action Action.decode field.2
      return { fields with action }
  | "path" => do
      let path ← Decoded.once "path" fields.path Decoded.text field.2
      return { fields with path }
  | "value" => do
      let value ← Decoded.once "value" fields.value Document.decode field.2
      return { fields with value }
  | _ => .ok fields

/-- The value of an operation that is stored without one. -/
def absentValue : Document :=
  .unrecognized .null

/-- Decodes an operation. -/
def decode : Json → Decoded Operation
  | .object given => do
      let fields ← given.foldlM decodeField ⟨none, none, none⟩
      let action ← Decoded.required "op" fields.action
      let path ← Decoded.required "path" fields.path
      return ⟨action, path, fields.value.getD absentValue⟩
  | .array [] => .error (.tooShort 0 recordName 3)
  | .array [action] => do
      let _ ← Action.decode action
      .error (.tooShort 1 recordName 3)
  | .array (action :: path :: rest) => do
      let action ← Action.decode action
      let path ← Decoded.text path
      match rest with
      | [] => return ⟨action, path, absentValue⟩
      | [value] =>
          let value ← Document.decode value
          return ⟨action, path, value⟩
      | _ => .error (.tooLong (rest.length + 2))
  | found => .error (.wrongKind found (.record recordName))

end Operation

namespace Patch

/-- The name of the record in messages. -/
def recordName : String :=
  "PatchResult"

/-- Decodes a list of operations. -/
def decodeOperations : Json → Decoded (List Operation) :=
  Decoded.list Operation.decode

/-- The fields of a patch that have been decoded. -/
structure Fields where
  operations : Option (List Operation)
  status : Option Status

/-- Decodes a field; unknown ones are passed over. -/
def decodeField (fields : Fields) (field : String × Json) : Decoded Fields :=
  if field.1 = "operations" ∨ field.1 = "patch" then do
    let operations ←
      Decoded.once "operations" fields.operations decodeOperations field.2
    return { fields with operations }
  else if field.1 = "status" then do
    let status ← Decoded.once "status" fields.status Status.decode field.2
    return { fields with status }
  else
    .ok fields

/-- Decodes a patch. -/
def decode : Json → Decoded Patch
  | .object given => do
      let fields ← given.foldlM decodeField ⟨none, none⟩
      let operations ← Decoded.required "operations" fields.operations
      let status ← Decoded.required "status" fields.status
      return ⟨operations, status⟩
  | .array [] => .error (.tooShort 0 recordName 2)
  | .array [operations] => do
      let _ ← decodeOperations operations
      .error (.tooShort 1 recordName 2)
  | .array (operations :: status :: rest) => do
      let operations ← decodeOperations operations
      let status ← Status.decode status
      if rest.isEmpty then
        return ⟨operations, status⟩
      else
        .error (.tooLong (rest.length + 2))
  | found => .error (.wrongKind found (.record recordName))

end Patch

end LeafPatch
