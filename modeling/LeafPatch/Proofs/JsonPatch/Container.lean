import LeafPatch.Document.Basic
import LeafPatch.Proofs.JsonPatch.Basic
import LeafPatch.Proofs.Keyed

/-!
# Containers under operations

Arrays and objects are seen as one: a list of children under their keys, where
the keys of an array are its indices.  Whatever acts on a child that stands
between others then has the same law for both kinds of container.

The one difference is what a removal leaves behind.  An object without a field
is still an object under its other keys.  In an array the items behind the
removed one have moved, so that their keys are their indices no more; this is
why the law for a removal says nothing about keys.
-/

namespace LeafPatch.JsonPatch

/-- The container of a kind that has some children under their keys. -/
def ofFields : CollectionKind → List (String × Json) → Json
  | .sequence, fields => .array (fields.map Prod.snd)
  | .mapping, fields => .object fields

/-- The keys that a container may have: those of an array count from zero. -/
def WellKeyed : CollectionKind → List String → Prop
  | .sequence, keys => keys = (List.range keys.length).map toString
  | .mapping, keys => keys.Nodup

namespace WellKeyed

/-- In an array the key of an item spells how many there are before. -/
theorem index?_eq
    {before after : List String}
    {key : String}
    (wellKeyed : WellKeyed .sequence (before ++ key :: after)) :
    index? key = some before.length := by
  have here := congrArg (·[before.length]?) wellKeyed
  have isIndex : key = toString before.length := by simpa using here
  rw [isIndex]
  exact index?_toString before.length

theorem not_mem
    {before after : List String}
    {key : String}
    (wellKeyed : WellKeyed .mapping (before ++ key :: after)) :
    key ∉ before := by
  intro member
  exact
    (List.nodup_append.mp wellKeyed).2.2 key member key List.mem_cons_self rfl

theorem left
    {kind : CollectionKind}
    {keys others : List String}
    (wellKeyed : WellKeyed kind (keys ++ others)) :
    WellKeyed kind keys := by
  cases kind with
  | mapping => exact (List.nodup_append.mp wellKeyed).1
  | sequence =>
      have first := congrArg (List.take keys.length) wellKeyed
      rw [List.take_left, ← List.map_take, List.take_range,
        List.length_append, Nat.min_eq_left (Nat.le_add_right _ _)] at first
      exact first

/-- A key of an object can go, one of an array only if it is the last. -/
theorem erase
    {kind : CollectionKind}
    {before after : List String}
    {key : String}
    (wellKeyed : WellKeyed kind (before ++ key :: after))
    (isLast : kind = .sequence → after = []) :
    WellKeyed kind (before ++ after) := by
  cases kind with
  | mapping =>
      exact
        List.Nodup.sublist
          ((List.sublist_cons_self key after).append_left before) wellKeyed
  | sequence =>
      rw [isLast rfl, List.append_nil]
      exact wellKeyed.left

/-- The keys of one of two arrays begin with those of the other. -/
theorem prefix_or_prefix
    {keys others : List String}
    (wellKeyed : WellKeyed .sequence keys)
    (otherWellKeyed : WellKeyed .sequence others) :
    keys <+: others ∨ others <+: keys := by
  rcases Nat.le_total keys.length others.length with shorter | longer
  · rcases Nat.exists_eq_add_of_le shorter with ⟨more, length⟩
    rw [WellKeyed, length, List.range_add, List.map_append, ← wellKeyed]
      at otherWellKeyed
    exact Or.inl ⟨_, otherWellKeyed.symm⟩
  · rcases Nat.exists_eq_add_of_le longer with ⟨more, length⟩
    rw [WellKeyed, length, List.range_add, List.map_append, ← otherWellKeyed]
      at wellKeyed
    exact Or.inr ⟨_, wellKeyed.symm⟩

theorem dropLast_prefix
    {keys others : List String}
    (wellKeyed : WellKeyed .sequence keys)
    (otherWellKeyed : WellKeyed .sequence others)
    (short : keys.length ≤ others.length + 1) :
    keys.dropLast <+: others := by
  rcases wellKeyed.prefix_or_prefix otherWellKeyed with isPrefix | isPrefix
  · exact (List.dropLast_prefix keys).trans isPrefix
  · apply
      List.prefix_of_prefix_length_le (List.dropLast_prefix keys) isPrefix
    rw [List.length_dropLast]
    omega

end WellKeyed

/-! ## Common and new keys -/

/-- The keys of a list that another has, before those that only the other has. -/
def mergedKeys (keys others : List String) : List String :=
  keys.filter (fun key => key ∈ others)
    ++ others.filter (fun key => key ∉ keys)

theorem mergedKeys_perm
    {keys others : List String}
    (distinct : keys.Nodup)
    (otherDistinct : others.Nodup) :
    (mergedKeys keys others).Perm others := by
  rw [List.perm_ext_iff_of_nodup _ otherDistinct]
  · intro key
    rw [mergedKeys, List.mem_append, List.mem_filter, List.mem_filter]
    by_cases member : key ∈ keys <;> simp [member]
  · rw [mergedKeys, List.nodup_append]
    refine ⟨distinct.filter _, otherDistinct.filter _, ?_⟩
    rintro key isShared other isNew rfl
    simp only [List.mem_filter, decide_eq_true_eq] at isShared isNew
    exact isNew.2 isShared.1

/-- In arrays the new keys go on where the common ones end. -/
theorem mergedKeys_eq
    {keys others : List String}
    (wellKeyed : WellKeyed .sequence keys)
    (otherWellKeyed : WellKeyed .sequence others)
    (distinct : keys.Nodup)
    (otherDistinct : others.Nodup) :
    mergedKeys keys others = others := by
  rcases wellKeyed.prefix_or_prefix otherWellKeyed with
    ⟨more, rfl⟩ | ⟨more, rfl⟩
  · have apart := (List.nodup_append.mp otherDistinct).2.2
    have shared :
        keys.filter (fun key => key ∈ keys ++ more) = keys := by
      rw [List.filter_eq_self]
      intro key member
      simp [member]
    have old : keys.filter (fun key => key ∉ keys) = [] := by
      rw [List.filter_eq_nil_iff]
      intro key member
      simp [member]
    have new : more.filter (fun key => key ∉ keys) = more := by
      rw [List.filter_eq_self]
      intro key member
      rw [decide_eq_true_eq]
      intro isOld
      exact apart key isOld key member rfl
    rw [mergedKeys, shared, List.filter_append, old, new, List.nil_append]
  · have apart := (List.nodup_append.mp distinct).2.2
    have shared :
        others.filter (fun key => key ∈ others) = others := by
      rw [List.filter_eq_self]
      intro key member
      simp [member]
    have gone : more.filter (fun key => key ∈ others) = [] := by
      rw [List.filter_eq_nil_iff]
      intro key member
      rw [decide_eq_true_eq]
      intro isShared
      exact apart key isShared key member rfl
    have new :
        others.filter (fun key => key ∉ others ++ more) = [] := by
      rw [List.filter_eq_nil_iff]
      intro key member
      simp [member]
    rw [mergedKeys, List.filter_append, shared, gone, new, List.append_nil,
      List.append_nil]

theorem wellKeyed_mergedKeys
    {kind : CollectionKind}
    {keys others : List String}
    (wellKeyed : WellKeyed kind keys)
    (otherWellKeyed : WellKeyed kind others)
    (distinct : keys.Nodup)
    (otherDistinct : others.Nodup) :
    WellKeyed kind (mergedKeys keys others) := by
  cases kind with
  | mapping =>
      exact
        (mergedKeys_perm distinct otherDistinct).nodup_iff.mpr otherDistinct
  | sequence =>
      rw [mergedKeys_eq wellKeyed otherWellKeyed distinct otherDistinct]
      exact otherWellKeyed

theorem index?_dash : index? "-" = none := by
  decide

/-! ## Items of arrays -/

theorem setChild?_array
    {token : String}
    {value json : Json}
    {items : List Json}
    (done : setChild? token value (.array items) = some json) :
    ∃ others, json = .array others ∧ others.length = items.length := by
  simp only [setChild?, Option.bind_eq_some_iff, Option.ite_none_right_eq_some,
    Option.some.injEq] at done
  rcases done with ⟨index, -, -, rfl⟩
  exact ⟨items.set index value, rfl, List.length_set⟩

/-- A removal takes one item, whose index is below their number. -/
theorem removeChild?_array
    {token : String}
    {json : Json}
    {items : List Json}
    (done : removeChild? token (.array items) = some json) :
    ∃ index others, index? token = some index ∧ index < items.length
      ∧ json = .array others ∧ others.length + 1 = items.length := by
  simp only [removeChild?, Option.bind_eq_some_iff,
    Option.ite_none_right_eq_some, Option.some.injEq] at done
  rcases done with ⟨index, isIndex, inside, rfl⟩
  refine ⟨index, items.eraseIdx index, isIndex, inside, rfl, ?_⟩
  rw [List.length_eraseIdx_of_lt inside]
  omega

/-- Nothing but an addition of an item makes an array longer. -/
theorem Edit.applyAt?_array
    {edit : Edit}
    {key : String}
    {keys : List String}
    {json : Json}
    {items : List Json}
    (noAddition : keys = [] → ∀ value, edit ≠ .add value)
    (done : edit.applyAt? (key :: keys) (.array items) = some json) :
    ∃ others, json = .array others ∧ others.length ≤ items.length := by
  cases keys with
  | nil =>
      cases edit with
      | add value => exact absurd rfl (noAddition rfl value)
      | remove =>
          rcases removeChild?_array done with ⟨index, others, -, -, rfl, length⟩
          exact ⟨others, rfl, by omega⟩
      | replace value =>
          rcases setChild?_array done with ⟨others, rfl, length⟩
          exact ⟨others, rfl, by omega⟩
  | cons next rest =>
      rw [Edit.applyAt?, Option.bind_eq_some_iff] at done
      rcases done with ⟨child, -, done⟩
      rcases Option.bind_eq_some_iff.mp done with ⟨edited, -, done⟩
      rcases setChild?_array done with ⟨others, rfl, length⟩
      exact ⟨others, rfl, by omega⟩

/-! ## One child between others -/

section Between

variable
    {kind : CollectionKind}
    {before after : List (String × Json)}
    {key : String}
    {json : Json}

theorem child?_ofFields
    (wellKeyed :
      WellKeyed kind (Keyed.keys (before ++ (key, json) :: after))) :
    child? key (ofFields kind (before ++ (key, json) :: after)) =
      some json := by
  rw [Keyed.keys_append, Keyed.keys_cons] at wellKeyed
  cases kind with
  | sequence => simp [child?, ofFields, wellKeyed.index?_eq]
  | mapping =>
      rw [ofFields, child?, Keyed.find?_append,
        Keyed.find?_eq_none_iff.mpr wellKeyed.not_mem, Option.none_or,
        Keyed.find?_cons_self]

theorem setChild?_ofFields
    (wellKeyed :
      WellKeyed kind (Keyed.keys (before ++ (key, json) :: after)))
    (value : Json) :
    setChild? key value (ofFields kind (before ++ (key, json) :: after)) =
      some (ofFields kind (before ++ (key, value) :: after)) := by
  rw [Keyed.keys_append, Keyed.keys_cons] at wellKeyed
  cases kind with
  | sequence => simp [setChild?, ofFields, wellKeyed.index?_eq]
  | mapping =>
      rw [ofFields, setChild?,
        Keyed.insert_append_cons_self json value wellKeyed.not_mem after]
      simp [ofFields]

theorem removeChild?_ofFields
    (wellKeyed :
      WellKeyed kind (Keyed.keys (before ++ (key, json) :: after))) :
    removeChild? key (ofFields kind (before ++ (key, json) :: after)) =
      some (ofFields kind (before ++ after)) := by
  rw [Keyed.keys_append, Keyed.keys_cons] at wellKeyed
  cases kind with
  | sequence =>
      simp [removeChild?, ofFields, wellKeyed.index?_eq,
        List.eraseIdx_append_of_length_le]
  | mapping =>
      have others : ∀ field ∈ before, ¬ decide (field.1 = key) = true := by
        rintro ⟨name, value⟩ member same
        exact
          wellKeyed.not_mem
            (of_decide_eq_true same ▸ Keyed.mem_keys_of_mem member)
      rw [ofFields, removeChild?, List.eraseP_append_right _ others,
        List.eraseP_cons_of_pos (by simp)]
      simp [ofFields]

theorem addChild?_ofFields
    (wellKeyed : WellKeyed kind (Keyed.keys (before ++ [(key, json)]))) :
    addChild? key json (ofFields kind before) =
      some (ofFields kind (before ++ [(key, json)])) := by
  rw [Keyed.keys_append, Keyed.keys_cons] at wellKeyed
  cases kind with
  | sequence =>
      have isIndex := wellKeyed.index?_eq
      have notDash : key ≠ "-" := by
        rintro rfl
        rw [index?_dash] at isIndex
        cases isIndex
      have atEnd :
          (before.map Prod.snd).insertIdx before.length json =
            before.map Prod.snd ++ [json] := by
        rw [← List.insertIdx_length_self, List.length_map]
      simp [addChild?, ofFields, isIndex, notDash, atEnd]
  | mapping =>
      rw [ofFields, addChild?,
        Keyed.insert_of_not_mem json wellKeyed.not_mem]
      rfl

/--
Acting at or below a child is acting on the child alone.  At the child itself
only a replacement does so: an addition would move its siblings.
-/
theorem Edit.applyAt?_ofFields
    {edit : Edit}
    {keys : List String}
    (wellKeyed :
      WellKeyed kind (Keyed.keys (before ++ (key, json) :: after)))
    (inPlace : keys = [] → ∃ value, edit = .replace value) :
    edit.applyAt? (key :: keys)
        (ofFields kind (before ++ (key, json) :: after)) =
      (edit.applyAt? keys json).map fun edited =>
        ofFields kind (before ++ (key, edited) :: after) := by
  cases keys with
  | nil =>
      rcases inPlace rfl with ⟨value, rfl⟩
      exact setChild?_ofFields wellKeyed value
  | cons next rest =>
      rw [Edit.applyAt?, child?_ofFields wellKeyed, Option.bind_some]
      cases edit.applyAt? (next :: rest) json with
      | none => rfl
      | some edited => exact setChild?_ofFields wellKeyed edited

end Between

end LeafPatch.JsonPatch
