import LeafPatch.Patch.Draft
import LeafPatch.Patch.Text
import LeafPatch.Proofs.Document.Reading
import LeafPatch.Proofs.JsonPatch.Container
import LeafPatch.Proofs.Patch.Exactness

/-!
# Changes as operations on JSON

A change of a leaf is an operation on the JSON of the document.  Written in the
strict form under escaped pointers and read again, it is the same operation, so
that applying a patch document is running the changes that it is made of.

Running the changes below one child of a container is running them on the child
alone.  From this the run over a whole container is read off child by child:
what both documents have is changed in place, what only the first has is taken
out, and what only the second has comes behind all others.
-/

namespace LeafPatch

open JsonPatch

namespace Change

/-- What a change does at its place in the JSON of a document. -/
def edit (change : Change) : Edit :=
  match change.action with
  | .add => .add change.value.toJson
  | .remove => .remove
  | .replace => .replace change.value.toJson

theorem action_eq_add_of_edit_eq_add
    {change : Change}
    {value : Json}
    (isAddition : change.edit = .add value) :
    change.action = .add := by
  rcases change with ⟨action, keys, scalar⟩
  cases action with
  | add => rfl
  | remove => cases isAddition
  | replace => cases isAddition

/-- Applies a change to the JSON of a document. -/
def applyTo? (json : Json) (change : Change) : Option Json :=
  change.edit.applyAt? change.keys json

/-- Applies changes one after the other; nothing if any of them fails. -/
def run? (changes : List Change) (json : Json) : Option Json :=
  changes.foldlM applyTo? json

@[simp]
theorem run?_nil (json : Json) : run? [] json = some json :=
  rfl

theorem run?_cons
    (change : Change)
    (rest : List Change)
    (json : Json) :
    run? (change :: rest) json = (change.applyTo? json).bind (run? rest) :=
  List.foldlM_cons

theorem run?_singleton (change : Change) (json : Json) :
    run? [change] json = change.applyTo? json := by
  rw [run?_cons]
  cases change.applyTo? json <;> rfl

theorem run?_append
    (changes others : List Change)
    (json : Json) :
    run? (changes ++ others) json = (run? changes json).bind (run? others) :=
  List.foldlM_append

/-! ## Patch documents -/

/-- The operation object of a change is read as the change. -/
theorem step?_toJson_locate (json : Json) (change : Change) :
    step? json ((change.locate .escaped "").toJson .strict) =
      change.applyTo? json := by
  rcases change with ⟨action, keys, value⟩
  have read : Pointer.keys? .escaped (Pointer.descend .escaped "" keys) =
      some keys := by
    apply Pointer.keys?_descend
    intro key member isRaw
    cases isRaw
  cases action <;>
    simp [Operation.toJson, locate, step?, Edit.ofMembers?, Keyed.find?,
      Action.name, read, applyTo?, edit, Document.toJson]

/-- Applying a patch at the root is running its changes. -/
theorem applyPatch?_patchTo
    (source target : Document)
    {options : Options}
    (atRoot : options.basePath = "")
    (escaped : options.pointerStyle = .escaped)
    (json : Json) :
    JsonPatch.applyPatch?
        ((source.patchTo target options).operationsToJson .strict) json =
      run? (source.changes target) json := by
  rw [Patch.operationsToJson, JsonPatch.applyPatch?,
    Document.patchTo_operations, atRoot, escaped, List.map_map,
    List.foldlM_map, run?]
  simp only [Function.comp_apply, step?_toJson_locate]

/-! ## Changes below one child -/

/-- Only a replacement is at the root itself. -/
def InPlace (change : Change) : Prop :=
  change.keys = [] → change.action = .replace

theorem applyTo?_under
    {kind : CollectionKind}
    {before after : List (String × Json)}
    {key : String}
    {json : Json}
    {change : Change}
    (wellKeyed :
      WellKeyed kind (Keyed.keys (before ++ (key, json) :: after)))
    (inPlace : change.InPlace) :
    (change.under key).applyTo?
        (ofFields kind (before ++ (key, json) :: after)) =
      (change.applyTo? json).map fun edited =>
        ofFields kind (before ++ (key, edited) :: after) := by
  apply Edit.applyAt?_ofFields wellKeyed
  intro atChild
  exact ⟨change.value.toJson, by simp [edit, under, inPlace atChild]⟩

/-- Changes below one child are changes of that child. -/
theorem run?_under
    {kind : CollectionKind}
    {before after : List (String × Json)}
    {key : String}
    {json : Json}
    {changes : List Change}
    (wellKeyed :
      WellKeyed kind (Keyed.keys (before ++ (key, json) :: after)))
    (inPlace : ∀ change ∈ changes, change.InPlace) :
    run? (changes.map (under key))
        (ofFields kind (before ++ (key, json) :: after)) =
      (run? changes json).map fun edited =>
        ofFields kind (before ++ (key, edited) :: after) := by
  induction changes generalizing json with
  | nil => rfl
  | cons first rest ih =>
      rw [List.map_cons, run?_cons, run?_cons,
        applyTo?_under wellKeyed (inPlace first List.mem_cons_self)]
      cases first.applyTo? json with
      | none => rfl
      | some edited =>
          rw [Option.map_some, Option.bind_some, Option.bind_some]
          apply ih
          · simpa using wellKeyed
          · intro change member
            exact inPlace change (List.mem_cons_of_mem _ member)

end Change

namespace Document

open Change

/-! ## Documents as containers -/

theorem toJson_collection
    (kind : CollectionKind)
    (entries : List (String × Document)) :
    (collection kind entries).toJson =
      ofFields kind (toJsonFields entries) := by
  cases kind with
  | mapping => rfl
  | sequence =>
      rw [toJson, ofFields]
      congr 1
      induction entries with
      | nil => rfl
      | cons entry rest ih => rw [toJsonItems, toJsonFields, List.map_cons, ih]

/--
The keys of a child of a well-formed document are those of a container of its
kind.
-/
theorem Aligned.wellKeyed
    {kind otherKind : CollectionKind}
    {before after : List (String × Document)}
    (aligned :
      Aligned (collection kind before) (collection otherKind after)) :
    WellKeyed kind (Keyed.keys before) := by
  cases kind with
  | mapping => exact aligned.nodup_keys
  | sequence =>
      rw [WellKeyed, Keyed.length_keys]
      exact aligned.indexedSource [] before rfl

/-- Between aligned documents only two scalars are changed at the root. -/
theorem Aligned.inPlace
    {source target : Document}
    (aligned : Aligned source target) :
    ∀ change ∈ source.changes target, change.InPlace := by
  intro change member atRoot
  rcases change with ⟨action, keys, value⟩
  cases atRoot
  induction source, target, aligned using Aligned.induction with
  | scalars old new aligned =>
      by_cases same : old.sameValue new = true
      · simp [changes, same] at member
      · simp only [changes, same, Bool.false_eq_true, if_false,
          List.mem_singleton] at member
        cases member
        rfl
  | collections kind before after aligned ih =>
      rw [mem_changes_collection_iff aligned.nodup_keys
        aligned.symm.nodup_keys] at member
      rcases member with ⟨key, inner, -, equal⟩
      cases equal

end Document

end LeafPatch
