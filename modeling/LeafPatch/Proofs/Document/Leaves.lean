import LeafPatch.Proofs.Document.Place

/-!
# The list of leaves

`Document.leaves` lists the scalars of a document in document order.  Where no
collection gives a key twice, the list is the map of leaves: it has a scalar
with some keys exactly when these keys lead to it.  No two of its members stand
on one way, so no place is listed twice.
-/

namespace LeafPatch.Document

theorem leavesWithin_eq_flatMap
    (entries : List (String × Document)) :
    leavesWithin entries =
      entries.flatMap fun entry =>
        entry.2.leaves.map fun leaf => (entry.1 :: leaf.1, leaf.2) := by
  induction entries with
  | nil => rfl
  | cons entry rest ih =>
      rcases entry with ⟨key, child⟩
      rw [leavesWithin, ih, List.flatMap_cons]

theorem mem_leavesWithin_iff
    {entries : List (String × Document)}
    {keys : List String}
    {value : Scalar} :
    (keys, value) ∈ leavesWithin entries ↔
      ∃ key child rest,
        (key, child) ∈ entries ∧ (rest, value) ∈ child.leaves
          ∧ keys = key :: rest := by
  rw [leavesWithin_eq_flatMap, List.mem_flatMap]
  constructor
  · rintro ⟨⟨key, child⟩, member, mapped⟩
    rcases List.mem_map.mp mapped with ⟨⟨rest, inner⟩, leaf, equal⟩
    cases equal
    exact ⟨key, child, rest, member, leaf, rfl⟩
  · rintro ⟨key, child, rest, member, leaf, rfl⟩
    exact ⟨(key, child), member, List.mem_map.mpr ⟨(rest, value), leaf, rfl⟩⟩

/-- The list of leaves has what the map of leaves has. -/
theorem mem_leaves_iff
    {document : Document}
    (distinct : document.DistinctKeys)
    {keys : List String}
    {value : Scalar} :
    (keys, value) ∈ document.leaves ↔
      document.scalarAt? keys = some value := by
  induction document generalizing keys with
  | scalar inner =>
      cases keys with
      | nil => simp [leaves, scalar?, eq_comm]
      | cons key rest => simp [leaves, scalarAt?_cons]
  | unrecognized inner =>
      cases keys with
      | nil => simp [leaves, scalar?]
      | cons key rest => simp [leaves, scalarAt?_cons]
  | collection kind entries ih =>
      rcases distinctKeys_collection_iff.mp distinct with ⟨nodup, children⟩
      rw [leaves, mem_leavesWithin_iff]
      constructor
      · rintro ⟨key, child, rest, member, leaf, rfl⟩
        rw [scalarAt?_cons, find?_collection,
          (Keyed.find?_eq_some_iff nodup).mpr member, Option.bind_some]
        exact (ih key child member (children key child member)).mp leaf
      · intro found
        cases keys with
        | nil => simp [scalar?] at found
        | cons key rest =>
            rw [scalarAt?_cons, find?_collection] at found
            rcases Option.bind_eq_some_iff.mp found with ⟨child, isChild, inner⟩
            have member := Keyed.mem_of_find?_eq_some isChild
            exact
              ⟨key, child, rest, member,
                (ih key child member (children key child member)).mpr inner,
                rfl⟩

/-- No two members of the list of leaves stand on one way. -/
theorem leaves_pairwise
    {document : Document}
    (distinct : document.DistinctKeys) :
    document.leaves.Pairwise
      fun left right => ¬ Comparable left.1 right.1 := by
  induction document with
  | scalar inner => exact List.pairwise_singleton _ _
  | unrecognized inner => exact List.Pairwise.nil
  | collection kind entries ih =>
      rcases distinctKeys_collection_iff.mp distinct with ⟨nodup, children⟩
      rw [leaves, leavesWithin_eq_flatMap, List.pairwise_flatMap]
      constructor
      · rintro ⟨key, child⟩ member
        rw [List.pairwise_map]
        refine (ih key child member (children key child member)).imp ?_
        intro left right apart comparable
        exact apart ((Comparable.cons_cons _ _ _ _).mp comparable).2
      · -- leaves of different children differ in their first key
        rw [Keyed.keys, List.nodup_iff_pairwise_ne, List.pairwise_map] at nodup
        refine nodup.imp ?_
        intro entry other different left isLeft right isRight comparable
        rcases List.mem_map.mp isLeft with ⟨leftLeaf, -, rfl⟩
        rcases List.mem_map.mp isRight with ⟨rightLeaf, -, rfl⟩
        exact different ((Comparable.cons_cons _ _ _ _).mp comparable).1

end LeafPatch.Document
