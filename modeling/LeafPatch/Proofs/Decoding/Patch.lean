import LeafPatch.Decoding.Patch
import LeafPatch.Patch.Text
import LeafPatch.Proofs.Document.Restorable
import LeafPatch.Proofs.Json.Reading
import LeafPatch.Proofs.Patch.Exactness

/-!
# Patches that are decoded again

A patch has three JSON forms: its operations in the full or in the strict format,
and the patch as it is stored.  The full format has of each operation what is
stored of it.  As long as JSON gives the values of its operations back, every
form decodes to what was written, only that the removals of the strict format
come back with the value null.

A form is written as a text, and what is decoded is what a reader finds there.
The reader gives the form back if it is readable, which only the values of the
operations decide: their doubles are to be legible, no key is to be given twice,
and they are to leave room for the two or three levels of the form around them.
-/

namespace LeafPatch

namespace Decoded

/-- Items that are decoded one by one. -/
theorem mapM_eq_ok_of_forall
    {Source Target Value : Type}
    (values : List Value)
    (encode : Value → Source)
    (decode : Source → Decoded Target)
    (result : Value → Target)
    (decoded : ∀ value ∈ values, decode (encode value) = .ok (result value)) :
    (values.map encode).mapM decode = .ok (values.map result) := by
  induction values with
  | nil => rfl
  | cons value rest ih =>
      rw [List.forall_mem_cons] at decoded
      rw [List.map_cons, List.mapM_cons, decoded.1, ih decoded.2]
      rfl

end Decoded

theorem Action.decode_name (action : Action) :
    Action.decode (.text action.name) = .ok action := by
  cases action <;> rfl

theorem Status.decode_name (status : Status) :
    Status.decode (.text status.name) = .ok status := by
  cases status <;> rfl

namespace Operation

/-- The operation without what a removal removes. -/
def withoutRemoved (operation : Operation) : Operation :=
  match operation.action with
  | .remove => { operation with value := absentValue }
  | _ => operation

/-- The full format has what is stored. -/
theorem toJson_full (operation : Operation) :
    operation.toJson .full = operation.stored := by
  rcases operation with ⟨action, path, value⟩
  cases action <;> rfl

theorem decode_stored
    {operation : Operation}
    (restorable : operation.value.Restorable) :
    decode operation.stored = .ok operation := by
  rcases operation with ⟨action, path, value⟩
  have fields :
      [("op", Json.text action.name), ("path", .text path),
            ("value", value.toJson)].foldlM
          decodeField ⟨none, none, none⟩ =
        .ok
          ⟨some action, some path,
            some (Document.ofJson false value.toJson)⟩ := by
    cases action <;> rfl
  rw [restorable.ofJson_toJson] at fields
  rw [stored, decode, fields]
  rfl

/-- A removal in the strict format has the value of an operation without one. -/
theorem decode_toJson_strict
    {operation : Operation}
    (restorable : operation.value.Restorable) :
    decode (operation.toJson .strict) = .ok operation.withoutRemoved := by
  rcases operation with ⟨action, path, value⟩
  cases action with
  | remove => rfl
  | add => exact decode_stored restorable
  | replace => exact decode_stored restorable

end Operation

namespace Patch

/-- JSON gives the values of all operations back. -/
def Restorable (patch : Patch) : Prop :=
  ∀ operation ∈ patch.operations, operation.value.Restorable

theorem operationsToJson_full (patch : Patch) :
    patch.operationsToJson .full =
      .array (patch.operations.map Operation.stored) := by
  rw [operationsToJson]
  congr 1
  apply List.map_congr_left
  intro operation _
  exact operation.toJson_full

section Restorable

variable
    {patch : Patch}
    (restorable : patch.Restorable)

include restorable

theorem decodeOperations_stored :
    decodeOperations (.array (patch.operations.map Operation.stored)) =
      .ok patch.operations := by
  have decoded :=
    Decoded.mapM_eq_ok_of_forall patch.operations Operation.stored
      Operation.decode id fun operation member =>
        Operation.decode_stored (restorable operation member)
  rw [List.map_id] at decoded
  exact decoded

theorem decodeOperations_strict :
    decodeOperations (patch.operationsToJson .strict) =
      .ok (patch.operations.map Operation.withoutRemoved) :=
  Decoded.mapM_eq_ok_of_forall patch.operations (Operation.toJson .strict)
    Operation.decode Operation.withoutRemoved fun operation member =>
      Operation.decode_toJson_strict (restorable operation member)

theorem decode_storedUnder
    {name : String}
    (isName : name = "operations" ∨ name = "patch") :
    decode (patch.storedUnder name) = .ok patch := by
  have fields :
      [(name, Json.array (patch.operations.map Operation.stored)),
            ("status", .text patch.status.name)].foldlM
          decodeField ⟨none, none⟩ =
        .ok ⟨some patch.operations, some patch.status⟩ := by
    rw [List.foldlM_cons, decodeField, if_pos isName, Decoded.once,
      decodeOperations_stored restorable]
    show
      ([("status", Json.text patch.status.name)].foldlM
        decodeField ⟨some patch.operations, none⟩) = _
    rw [List.foldlM_cons, decodeField, if_neg (by simp), if_pos rfl,
      Decoded.once, Status.decode_name]
    rfl
  rw [storedUnder, decode, fields]
  rfl

end Restorable

end Patch

/-! ## Forms that are readable -/

namespace Operation

variable
    {operation : Operation}
    {room : Nat}
    (readable : Json.Readable room operation.value.toJson)

include readable

theorem readable_stored : Json.Readable (room + 1) operation.stored := by
  refine .object (by simp [Keyed.keys]) fun key value member => ?_
  simp only [List.mem_cons, List.not_mem_nil, or_false, Prod.mk.injEq] at member
  rcases member with ⟨-, rfl⟩ | ⟨-, rfl⟩ | ⟨-, rfl⟩
  · exact .text _
  · exact .text _
  · exact readable

theorem readable_toJson (format : PatchFormat) :
    Json.Readable (room + 1) (operation.toJson format) := by
  unfold toJson
  split
  · refine .object (by simp [Keyed.keys]) fun key value member => ?_
    simp only [List.mem_cons, List.not_mem_nil, or_false, Prod.mk.injEq] at member
    rcases member with ⟨-, rfl⟩ | ⟨-, rfl⟩ <;> exact .text _
  · exact readable_stored readable

end Operation

namespace Patch

/-- The values of all operations are readable within the patch. -/
def Readable (patch : Patch) : Prop :=
  ∀ operation ∈ patch.operations,
    Json.Readable (Json.depthLimit - 3) operation.value.toJson

theorem readsBack_operationsToJson
    {patch : Patch}
    (readable : patch.Readable)
    (format : PatchFormat) :
    (patch.operationsToJson format).ReadsBack := by
  have operations :
      Json.Readable (Json.depthLimit - 3 + 1 + 1)
        (patch.operationsToJson format) := by
    refine .array fun json member => ?_
    rcases List.mem_map.mp member with ⟨operation, isOperation, rfl⟩
    exact Operation.readable_toJson (readable operation isOperation) format
  exact (operations.mono (by decide)).readsBack

theorem readsBack_storedUnder
    {patch : Patch}
    (readable : patch.Readable)
    {name : String}
    (isName : name = "operations" ∨ name = "patch") :
    (patch.storedUnder name).ReadsBack := by
  apply Json.Readable.readsBack
  refine .object ?_ fun key value member => ?_
  · rcases isName with rfl | rfl <;> simp [Keyed.keys]
  · simp only [List.mem_cons, List.not_mem_nil, or_false, Prod.mk.injEq] at member
    rcases member with ⟨-, rfl⟩ | ⟨-, rfl⟩
    · refine .array fun json member => ?_
      rcases List.mem_map.mp member with ⟨operation, isOperation, rfl⟩
      exact Operation.readable_stored (readable operation isOperation)
    · exact .text _

end Patch

/-- The patch of documents without dates has none either. -/
theorem Document.restorable_patchTo
    {source target : Document}
    (isSource : source.ReadWithoutDates)
    (isTarget : target.ReadWithoutDates)
    (distinctSource : source.DistinctKeys)
    (distinctTarget : target.DistinctKeys)
    (options : Options) :
    (source.patchTo target options).Restorable := by
  intro operation member
  rw [patchTo_operations] at member
  rcases List.mem_map.mp member with ⟨change, isChange, rfl⟩
  have called := ((mem_changes_iff distinctSource distinctTarget).mp isChange).2
  have leaves := Change.leaves_of_between? called
  apply restorable_scalar
  split at leaves
  · exact isTarget.ne_date leaves.2
  · exact isSource.ne_date leaves.1
  · rcases leaves with ⟨old, -, isNew, -⟩
    exact isTarget.ne_date isNew

namespace Patch

/-- A patch is equal to itself by value. -/
theorem sameValue_refl
    {patch : Patch}
    (restorable : patch.Restorable) :
    patch.sameValue patch = true := by
  have same :
      ∀ pair ∈ patch.operations.zip patch.operations,
        pair.1.sameValue pair.2 = true := by
    rintro ⟨left, right⟩ member
    rcases List.of_mem_zip member with ⟨isLeft, -⟩
    have equal : left = right := by
      rcases List.mem_iff_getElem.mp member with ⟨index, bound, isPair⟩
      rw [List.getElem_zip] at isPair
      cases isPair
      rfl
    subst equal
    simp [Operation.sameValue,
      Document.sameValue_refl (restorable left isLeft).distinct]
  simpa [sameValue] using same

/--
A patch whose values are given back by JSON is given back by each of its written
forms, as long as the text of the form is read as what was written.  The full
form of its operations has the text of the operations as they are stored, and
decodes to the operations.  The strict form decodes to the same operations, the
removals among them with the value null.  The stored patch decodes to itself, by
which of its two names its operations may go.

Every patch between documents that were read without dates is such a patch.
-/
theorem decode_written
    (patch : Patch)
    (restorable : patch.Restorable) :
    patch.renderJson .full =
        (Json.array (patch.operations.map Operation.stored)).render
      ∧ ((patch.operationsToJson .full).ReadsBack →
          (Json.parse? (patch.renderJson .full)).map decodeOperations =
            some (.ok patch.operations))
      ∧ ((patch.operationsToJson .strict).ReadsBack →
          (Json.parse? (patch.renderJson .strict)).map decodeOperations =
            some
              (.ok
                (patch.operations.map fun operation =>
                  match operation.action with
                  | .remove => { operation with value := .unrecognized .null }
                  | _ => operation)))
      ∧ (∀ name, name = "operations" ∨ name = "patch" →
          (patch.storedUnder name).ReadsBack →
            (Json.parse? (patch.storedUnder name).render).map decode =
              some (.ok patch))
      ∧ patch.sameValue patch = true
      ∧ ∀ (source target : Document) (options : Options),
          source.ReadWithoutDates → target.ReadWithoutDates →
            source.DistinctKeys → target.DistinctKeys →
              (source.patchTo target options).Restorable := by
  refine ⟨?_, ?_, ?_, ?_, sameValue_refl restorable, ?_⟩
  · rw [renderJson, operationsToJson_full]
  · intro reads
    rw [renderJson, reads, Option.map_some, operationsToJson_full,
      decodeOperations_stored restorable]
  · intro reads
    rw [renderJson, reads, Option.map_some, decodeOperations_strict restorable]
    rfl
  · intro name isName reads
    rw [reads, Option.map_some, decode_storedUnder restorable isName]
  · intro source target options isSource isTarget distinctSource distinctTarget
    exact
      Document.restorable_patchTo isSource isTarget distinctSource
        distinctTarget options

/-- An object is removed, with a number, an array and a null in it. -/
theorem decode_written_removedObject :
    let memory : Numeral := .integer 16 (by decide)
    let json : Json :=
      .object
        [("tags", .array [.text "rack", .null]), ("memory", .number memory)]
    let removed := Document.ofJson false json
    let patch : Patch :=
      ⟨[⟨.add, "/name", .ofText "node"⟩, ⟨.remove, "/properties", removed⟩],
        .error⟩
    patch.Restorable
      ∧ (patch.operationsToJson .full).ReadsBack
      ∧ (patch.operationsToJson .strict).ReadsBack
      ∧ (patch.storedUnder "patch").ReadsBack
      ∧ (Json.parse? (patch.renderJson .full)).map decodeOperations =
          some (.ok patch.operations)
      ∧ (Json.parse? (patch.renderJson .strict)).map decodeOperations =
          some
            (.ok
              [⟨.add, "/name", .ofText "node"⟩,
                ⟨.remove, "/properties", .unrecognized .null⟩])
      ∧ (Json.parse? (patch.storedUnder "patch").render).map decode =
          some (.ok patch) := by
  intro memory json removed patch
  have tags : Json.Readable 1 (.array [.text "rack", .null]) := by
    refine .array fun item member => ?_
    rcases List.mem_pair.mp member with rfl | rfl
    · exact .text "rack"
    · exact .null
  have readableJson : Json.Readable 2 json := by
    refine .object (by simp [Keyed.keys]) fun key value member => ?_
    rcases List.mem_pair.mp member with equal | equal
    · cases equal
      exact tags
    · cases equal
      exact .number (Numeral.legible_integer _)
  have distinct : removed.DistinctKeys :=
    Json.distinctKeys_of_parse? false (readableJson.mono (by decide)).readsBack
  have canonical : Numeral.ofNumber memory.number = memory := by
    decide +kernel
  have written : removed.toJson = json := by
    simp [removed, json, Document.ofJson, Document.ofJsonFields,
      Document.ofJsonItems, Document.toJson, Document.toJsonFields,
      Document.toJsonItems, Keyed.indexed, Scalar.ofText, Scalar.toJson,
      canonical]
  have restorable : patch.Restorable := by
    intro operation member
    rcases List.mem_pair.mp member with rfl | rfl
    · apply Document.restorable_scalar
      rintro timestamp ⟨⟩
    · exact Document.ReadWithoutDates.restorable (.json json) distinct
  have readable : patch.Readable := by
    intro operation member
    rcases List.mem_pair.mp member with rfl | rfl
    · exact .text "node"
    · rw [written]
      exact readableJson.mono (by decide)
  have full := readsBack_operationsToJson readable .full
  have strict := readsBack_operationsToJson readable .strict
  have stored := readsBack_storedUnder readable (Or.inr rfl)
  rcases decode_written patch restorable with
    ⟨-, ofFull, ofStrict, ofStored, -⟩
  exact
    ⟨restorable, full, strict, stored, ofFull full, ofStrict strict,
      ofStored "patch" (Or.inr rfl) stored⟩

end Patch

end LeafPatch
