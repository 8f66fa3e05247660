import LeafPatch.Proofs.Json.SameValue
import LeafPatch.Proofs.JsonPatch.Children

/-!
# Patches under RFC 6902

The strict form of the patch between two aligned documents is applied to the
JSON of the first.  It goes through exactly if no sequence loses more than one
item, and whenever it goes through it leaves the JSON of the second, up to the
order of fields and to how numbers are written.

Items go in the order of their indices, the first one first, as all children of
the first document are visited in its order.  Pointers name an item by the index
that it had at the start.  So a second removal in the same array looks for its
item where it was before the first one.
-/

namespace LeafPatch

open Change JsonPatch

/-- Scalars of the same value are written as JSON of the same value. -/
theorem Scalar.sameValue_toJson
    {old new : Scalar}
    (same : old.sameValue new = true) :
    new.toJson.sameValue old.toJson = true := by
  cases old with
  | number left =>
      cases new with
      | number right =>
          have units : left.units = right.units := by
            simpa [Scalar.sameValue] using same
          simp [Scalar.toJson, Json.sameValue, Numeral.units_ofNumber, units]
      | text value => cases same
      | date value => cases same
  | text left =>
      cases new with
      | number value => cases same
      | text right =>
          have equal : left = right := by
            simpa [Scalar.sameValue] using same
          simp [Scalar.toJson, Json.sameValue, equal]
      | date value => cases same
  | date left =>
      cases new with
      | number value => cases same
      | text value => cases same
      | date right =>
          have equal : left = right := by
            simpa [Scalar.sameValue] using same
          simp [Scalar.toJson, Json.sameValue, equal]

/-- Containers under the same keys have the same value if all children have. -/
theorem JsonPatch.sameValue_ofFields
    {kind : CollectionKind}
    {fields others : List (String × Json)}
    (distinct : (Keyed.keys fields).Nodup)
    (perm : (Keyed.keys others).Perm (Keyed.keys fields))
    (inOrder : kind = .sequence → Keyed.keys others = Keyed.keys fields)
    (found : Json.fieldsFound fields others = true) :
    (ofFields kind fields).sameValue (ofFields kind others) = true := by
  cases kind with
  | sequence =>
      rw [ofFields, ofFields, Json.sameValue]
      exact Json.sameItems_of_fieldsFound (inOrder rfl) distinct found
  | mapping =>
      have length : fields.length = others.length := by
        simpa using perm.length_eq.symm
      rw [ofFields, ofFields, Json.sameValue, found, length]
      simp

namespace Document

/--
The changes between aligned documents go through if and only if no sequence
loses two items.
-/
theorem isSome_run?_changes_iff
    {source target : Document}
    (aligned : Aligned source target) :
    (run? (source.changes target) source.toJson).isSome ↔
      LosesAtMostOne source target := by
  induction source, target, aligned using Aligned.induction with
  | scalars old new aligned =>
      have ran :
          (run? ((scalar old).changes (scalar new))
            (scalar old).toJson).isSome := by
        rw [changes]
        split
        · rfl
        · rfl
      exact iff_of_true ran (losesAtMostOne_scalar old (scalar new))
  | collections kind before after aligned ih =>
      rw [losesAtMostOne_collection_iff]
      by_cases short : kind = .sequence → before.length ≤ after.length + 1
      · rw [run?_changes_collection aligned short, Option.isSome_map,
          isSome_survivors?_iff, and_iff_right short]
        constructor
        · intro all key child other isBefore isAfter
          exact
            (ih key child other isBefore isAfter).mp
              (all key child other (Keyed.mem_of_find?_eq_some isBefore)
                isAfter)
        · intro all key child other member isAfter
          have isBefore := aligned.find?_eq_some member
          exact
            (ih key child other isBefore isAfter).mpr
              (all key child other isBefore isAfter)
      · rcases Classical.not_imp.mp short with ⟨rfl, long⟩
        rw [run?_changes_sequence_eq_none aligned (by omega)]
        exact iff_of_false (by simp) fun loses => long (loses.1 rfl)

/-- What the changes between aligned documents leave is the second document. -/
theorem sameValue_of_run?_changes
    {source target : Document}
    (aligned : Aligned source target)
    {json : Json}
    (ran : run? (source.changes target) source.toJson = some json) :
    target.toJson.sameValue json = true := by
  induction source, target, aligned using Aligned.induction
    generalizing json with
  | scalars old new aligned =>
      rw [changes] at ran
      split at ran
      · next same =>
          cases ran
          exact Scalar.sameValue_toJson same
      · cases ran
        exact Scalar.sameValue_toJson new.sameValue_refl
  | collections kind before after aligned ih =>
      have loses :=
        (isSome_run?_changes_iff aligned).mp
          (Option.isSome_of_eq_some ran)
      rw [run?_changes_collection aligned
        (losesAtMostOne_collection_iff.mp loses).1] at ran
      rcases Option.map_eq_some_iff.mp ran with ⟨fields, survive, rfl⟩
      have merged := keys_survivors?_append_newcomers survive
      rw [toJson_collection]
      apply sameValue_ofFields
      · rw [keys_toJsonFields]
        exact aligned.symm.nodup_keys
      · rw [merged, keys_toJsonFields]
        exact mergedKeys_perm aligned.nodup_keys aligned.symm.nodup_keys
      · rintro rfl
        rw [merged, keys_toJsonFields]
        exact
          mergedKeys_eq aligned.wellKeyed aligned.symm.wellKeyed
            aligned.nodup_keys aligned.symm.nodup_keys
      · rw [Json.fieldsFound_iff]
        intro key value member
        rw [toJsonFields_eq_map, List.mem_map] at member
        rcases member with ⟨⟨name, other⟩, member, equal⟩
        cases equal
        have isAfter := aligned.symm.find?_eq_some member
        rw [Keyed.find?_append, find?_toJsonFields]
        cases isBefore : Keyed.find? name before with
        | some child =>
            rcases find?_survivors? survive isBefore isAfter with
              ⟨json, found, childRan⟩
            rw [found]
            exact ⟨json, rfl, ih name child other isBefore isAfter childRan⟩
        | none =>
            have gone : Keyed.find? name fields = none := by
              rw [Keyed.find?_eq_none_iff, keys_survivors? survive,
                List.mem_filter]
              rintro ⟨member, -⟩
              exact Keyed.find?_eq_none_iff.mp isBefore member
            rcases aligned.symm.eq_scalar isAfter isBefore with ⟨value, rfl⟩
            rw [gone, find?_newcomers isBefore, isAfter]
            exact
              ⟨value.toJson, rfl,
                Scalar.sameValue_toJson value.sameValue_refl⟩

/--
Two documents are given that have collections of the same kinds at the same
places, nothing unrecognized and sequences that count from zero.  The strict
form of the patch between them, at the root and with escaped pointers, can be
applied to the JSON of the first if and only if no sequence of the first is
longer by two or more than the one at the same place of the second.  Whatever
its application leaves is the JSON of the second.
-/
theorem patchTo_applies
    (source target : Document)
    (options : Options)
    (aligned : Aligned source target)
    (atRoot : options.basePath = "")
    (escaped : options.pointerStyle = .escaped) :
    let patch := (source.patchTo target options).operationsToJson .strict
    ((JsonPatch.applyPatch? patch source.toJson).isSome ↔
        LosesAtMostOne source target)
      ∧ ∀ json, JsonPatch.applyPatch? patch source.toJson = some json →
          target.toJson.sameValue json = true := by
  intro patch
  rw [applyPatch?_patchTo source target atRoot escaped]
  refine ⟨isSome_run?_changes_iff aligned, ?_⟩
  intro json ran
  exact sameValue_of_run?_changes aligned ran

/-- An array that loses its last item. -/
theorem patchTo_applies_lastItem :
    let before := (Collection.sequence [ofText "a", ofText "b"]).toDocument
    let after := (Collection.sequence [ofText "a"]).toDocument
    let options : Options := ⟨"", .escaped, false⟩
    let patch := (before.patchTo after options).operationsToJson .strict
    Aligned before after ∧ LosesAtMostOne before after
      ∧ ∃ json, JsonPatch.applyPatch? patch before.toJson = some json
          ∧ after.toJson.sameValue json = true := by
  intro before after options patch
  have aligned : Aligned before after :=
    aligned_sequence [.text "a", .text "b"] [.text "a"]
  have loses : LosesAtMostOne before after :=
    (losesAtMostOne_sequence_iff [.text "a", .text "b"] [.text "a"]).mpr
      (by decide)
  rcases patchTo_applies before after options aligned rfl rfl with
    ⟨applies, same⟩
  rcases Option.isSome_iff_exists.mp (applies.mpr loses) with ⟨json, applied⟩
  exact ⟨aligned, loses, json, applied, same json applied⟩

/-- An array that loses two items: the second removal finds nothing at its index. -/
theorem patchTo_not_applies_twoItems :
    let before :=
      (Collection.sequence [ofText "a", ofText "b", ofText "c"]).toDocument
    let after := (Collection.sequence [ofText "a"]).toDocument
    let options : Options := ⟨"", .escaped, false⟩
    let patch := before.patchTo after options
    Aligned before after
      ∧ patch.operations =
          [⟨.remove, "/1", ofText "b"⟩, ⟨.remove, "/2", ofText "c"⟩]
      ∧ JsonPatch.applyPatch? (patch.operationsToJson .strict) before.toJson =
          none := by
  intro before after options patch
  have aligned : Aligned before after :=
    aligned_sequence [.text "a", .text "b", .text "c"] [.text "a"]
  have loses : ¬ LosesAtMostOne before after := by
    intro loses
    have length :=
      (losesAtMostOne_sequence_iff
        [.text "a", .text "b", .text "c"] [.text "a"]).mp loses
    exact absurd length (by decide)
  refine ⟨aligned, rfl, ?_⟩
  rw [applyPatch?_patchTo before after rfl rfl, ← Option.not_isSome_iff_eq_none,
    isSome_run?_changes_iff aligned]
  exact loses

end Document

end LeafPatch
