import LeafPatch.Document.Collection
import LeafPatch.Proofs.Document.Place

/-!
# Collections put together

A collection that is put together gives no key twice as long as its children do
not: a key that is given again replaces its child, and the items of an array
stand under their indices.
-/

namespace LeafPatch

namespace Collection

open Document

theorem distinctKeys_insert
    {collection : Collection}
    (distinct : collection.toDocument.DistinctKeys)
    (key : String)
    {child : Document}
    (childDistinct : child.DistinctKeys) :
    (collection.insert key child).toDocument.DistinctKeys := by
  refine
    distinctKeys_collection_iff.mpr
      ⟨Keyed.nodup_keys_insert key child distinct.nodup, ?_⟩
  intro name other member
  rcases Keyed.mem_insert member with ⟨rfl, rfl⟩ | isOld
  · exact childDistinct
  · exact distinct.descend (distinct.find?_eq_some isOld)

theorem distinctKeys_sequence
    {items : List Document}
    (children : ∀ item ∈ items, item.DistinctKeys) :
    (sequence items).toDocument.DistinctKeys := by
  refine
    distinctKeys_collection_iff.mpr ⟨Keyed.nodup_keys_indexed 0 items, ?_⟩
  intro key child member
  exact children child (Keyed.mem_of_mem_indexed member)

end Collection

end LeafPatch
