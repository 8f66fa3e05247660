import LeafPatch.Proofs.Document.SameValue
import LeafPatch.Proofs.Document.Unrecognized
import Mathlib.Data.List.Perm.Subperm

/-!
# Documents of the same content

Two documents are similar if they have the same content: their scalars are equal
by value and their nulls and booleans are the same, under the same keys.  In
which order a collection has its keys does not count, and neither does whether it
is an array or an object.

What stands at a place of one document is similar to what stands there in the
other.  Everything that is said of documents by their places is therefore said of
similar documents alike.

Equality by value implies similarity.  It only looks the entries of the first
collection up in the second, so this needs that their keys be counted: where none
is given twice, a collection that has as many keys as another, all of them among
the other's, has all of the other's.
-/

namespace LeafPatch.Document

/-- The documents have the same content, whatever their collections look like. -/
inductive Similar : Document → Document → Prop where
  | scalar
      {left right : Scalar}
      (same : left.sameValue right = true) :
      Similar (scalar left) (scalar right)
  | unrecognized (value : Unrecognized) :
      Similar (unrecognized value) (unrecognized value)
  | collection
      {kind otherKind : CollectionKind}
      {entries others : List (String × Document)}
      (sameKeys : ∀ key, key ∈ Keyed.keys entries ↔ key ∈ Keyed.keys others)
      (children :
        ∀ key child other,
          Keyed.find? key entries = some child →
            Keyed.find? key others = some other → Similar child other) :
      Similar (collection kind entries) (collection otherKind others)

/-- Of two related options both are nothing, or both are something. -/
theorem eq_none_or_eq_some_of_rel
    {Left Right : Type}
    {relation : Left → Right → Prop}
    {first : Option Left}
    {second : Option Right}
    (related : Option.Rel relation first second) :
    (first = none ∧ second = none)
      ∨ ∃ left right,
          first = some left ∧ second = some right ∧ relation left right := by
  cases related with
  | some related => exact Or.inr ⟨_, _, rfl, rfl, related⟩
  | none => exact Or.inl ⟨rfl, rfl⟩

namespace Similar

theorem symm
    {left right : Document}
    (similar : Similar left right) :
    Similar right left := by
  induction similar with
  | scalar same =>
      apply Similar.scalar
      rw [Scalar.sameValue_comm]
      exact same
  | unrecognized value => exact .unrecognized value
  | collection sameKeys _ ih =>
      apply Similar.collection
      · intro key
        exact (sameKeys key).symm
      · intro key child other isChild isOther
        exact ih key other child isOther isChild

section Places

variable
    {left right : Document}
    (similar : Similar left right)

include similar

/-- Similar documents have similar children. -/
theorem find? (key : String) :
    Option.Rel Similar (left.find? key) (right.find? key) := by
  cases similar with
  | scalar same => exact .none
  | unrecognized value => exact .none
  | @collection kind otherKind entries others sameKeys children =>
      rw [find?_collection, find?_collection]
      cases isChild : Keyed.find? key entries with
      | none =>
          have absent : Keyed.find? key others = none := by
            rw [Keyed.find?_eq_none_iff] at isChild ⊢
            exact fun member => isChild ((sameKeys key).mpr member)
          rw [absent]
          exact .none
      | some child =>
          cases isOther : Keyed.find? key others with
          | none =>
              rw [Keyed.find?_eq_none_iff] at isOther
              refine absurd ((sameKeys key).mp ?_) isOther
              exact Keyed.mem_keys_of_mem (Keyed.mem_of_find?_eq_some isChild)
          | some other => exact .some (children key child other isChild isOther)

/-- What stands at a place of one document is similar to what stands there in the other. -/
theorem follow? (keys : List String) :
    Option.Rel Similar (left.follow? keys) (right.follow? keys) := by
  induction keys generalizing left right with
  | nil => exact .some similar
  | cons key rest ih =>
      rw [follow?_cons, follow?_cons]
      rcases eq_none_or_eq_some_of_rel (similar.find? key) with
        ⟨isLeft, isRight⟩ | ⟨child, other, isLeft, isRight, below⟩
      · rw [isLeft, isRight]
        exact .none
      · rw [isLeft, isRight]
        exact ih below

theorem isSome_follow? (keys : List String) :
    (left.follow? keys).isSome = (right.follow? keys).isSome := by
  rcases eq_none_or_eq_some_of_rel (similar.follow? keys) with
    ⟨isLeft, isRight⟩ | ⟨node, other, isLeft, isRight, -⟩
  · rw [isLeft, isRight]
  · rw [isLeft, isRight]
    rfl

/-- What is found in one document has a counterpart in the other. -/
theorem exists_of_follow?
    {keys : List String}
    {node : Document}
    (found : left.follow? keys = some node) :
    ∃ other, right.follow? keys = some other ∧ Similar node other := by
  rcases eq_none_or_eq_some_of_rel (similar.follow? keys) with
    ⟨isLeft, -⟩ | ⟨left, other, isLeft, isRight, below⟩
  · rw [isLeft] at found
    cases found
  · rw [isLeft] at found
    cases found
    exact ⟨other, isRight, below⟩

theorem isUnrecognized_eq :
    left.isUnrecognized = right.isUnrecognized := by
  cases similar <;> rfl

/-- Similar documents have leaves of the same value at the same places. -/
theorem sameLeaf_scalarAt? (keys : List String) :
    Scalar.SameLeaf (left.scalarAt? keys) (right.scalarAt? keys) := by
  rw [scalarAt?, scalarAt?]
  rcases eq_none_or_eq_some_of_rel (similar.follow? keys) with
    ⟨isLeft, isRight⟩ | ⟨node, other, isLeft, isRight, below⟩
  · rw [isLeft, isRight]
    trivial
  · rw [isLeft, isRight]
    cases below with
    | scalar same => exact same
    | unrecognized value => trivial
    | collection sameKeys children => trivial

theorem unrecognizedAt_of_unrecognizedAt
    {keys : List String}
    (found : left.UnrecognizedAt keys) :
    right.UnrecognizedAt keys := by
  rcases found with ⟨value, found⟩
  rcases similar.exists_of_follow? found with ⟨other, isOther, below⟩
  cases below
  exact ⟨value, isOther⟩

end Places

theorem unrecognizedAt_iff
    {left right : Document}
    (similar : Similar left right)
    (keys : List String) :
    left.UnrecognizedAt keys ↔ right.UnrecognizedAt keys := by
  constructor
  · exact similar.unrecognizedAt_of_unrecognizedAt
  · exact similar.symm.unrecognizedAt_of_unrecognizedAt

/-- Of similar documents both have nulls or booleans somewhere, or neither has. -/
theorem hasUnrecognized_eq
    {left right : Document}
    (similar : Similar left right)
    (distinctLeft : left.DistinctKeys)
    (distinctRight : right.DistinctKeys) :
    left.hasUnrecognized = right.hasUnrecognized := by
  rw [Bool.eq_iff_iff, hasUnrecognized_iff distinctLeft,
    hasUnrecognized_iff distinctRight]
  exact exists_congr similar.unrecognizedAt_iff

end Similar

/-- As many keys, all among the other's, are the same keys. -/
theorem mem_keys_iff_of_subset
    {entries others : List (String × Document)}
    (distinct : (Keyed.keys entries).Nodup)
    (sameLength : entries.length = others.length)
    (subset : Keyed.keys entries ⊆ Keyed.keys others)
    (key : String) :
    key ∈ Keyed.keys entries ↔ key ∈ Keyed.keys others := by
  have shorter : (Keyed.keys others).length ≤ (Keyed.keys entries).length := by
    rw [Keyed.length_keys, Keyed.length_keys]
    exact Nat.le_of_eq sameLength.symm
  exact ((distinct.subperm subset).perm_of_length_le shorter).mem_iff

/-- Each entry of the first collection is found among those of the second. -/
theorem similar_of_found
    {kind otherKind : CollectionKind}
    {entries others : List (String × Document)}
    (sameKeys : ∀ key, key ∈ Keyed.keys entries ↔ key ∈ Keyed.keys others)
    (found :
      ∀ key child, (key, child) ∈ entries →
        ∃ other, Keyed.find? key others = some other ∧ Similar child other) :
    Similar (collection kind entries) (collection otherKind others) := by
  apply Similar.collection sameKeys
  intro key child other isChild isOther
  rcases found key child (Keyed.mem_of_find?_eq_some isChild) with
    ⟨counterpart, isFound, similar⟩
  rw [isOther] at isFound
  cases isFound
  exact similar

/-- Documents of the same value are similar. -/
theorem similar_of_sameValue
    {left right : Document}
    (distinct : left.DistinctKeys)
    (same : left.sameValue right = true) :
    Similar left right := by
  induction left generalizing right with
  | scalar value =>
      cases right with
      | scalar other => exact .scalar same
      | unrecognized other => cases same
      | collection kind entries => cases same
  | unrecognized value =>
      cases right with
      | scalar other => cases same
      | unrecognized other =>
          rw [sameValue, beq_iff_eq] at same
          subst same
          exact .unrecognized value
      | collection kind entries => cases same
  | collection kind entries ih =>
      cases right with
      | scalar other => cases same
      | unrecognized other => cases same
      | collection otherKind others =>
          rcases sameValue_collection_iff.mp same with ⟨-, sameLength, found⟩
          rw [entriesFound_iff] at found
          apply similar_of_found
          · apply mem_keys_iff_of_subset distinct.nodup sameLength
            intro key isKey
            rw [← Keyed.isSome_find?_iff, Option.isSome_iff_exists] at isKey
            rcases isKey with ⟨child, isChild⟩
            rcases found key child (Keyed.mem_of_find?_eq_some isChild) with
              ⟨other, isOther, -⟩
            exact Keyed.mem_keys_of_mem (Keyed.mem_of_find?_eq_some isOther)
          · intro key child member
            rcases found key child member with ⟨other, isOther, sameBelow⟩
            have childDistinct := distinct.descend (distinct.find?_eq_some member)
            exact ⟨other, isOther, ih key child member childDistinct sameBelow⟩

end LeafPatch.Document
