import LeafPatch.Proofs.Document.Collection
import LeafPatch.Proofs.Document.Unrecognized

/-!
# Documents that agree on their collections

Two documents are aligned if they have collections of the same kinds at the same
places, so that only scalars come and go.  They are to be well formed besides:
no key is given twice, nothing is unrecognized, and the children of a sequence
are counted from zero.

Aligned documents are either two scalars or two collections of one kind, whose
children under common keys are aligned again and whose other children are
scalars.  Everything about them is proved by the induction that this gives.
-/

namespace LeafPatch.Document

/-- The kind of the collection at a place. -/
def kindAt? (document : Document) (keys : List String) :
    Option CollectionKind :=
  match document.follow? keys with
  | some (collection kind _) => some kind
  | _ => none

/-- At every place both documents have a collection of the same kind or none. -/
def SameContainers (source target : Document) : Prop :=
  ∀ keys, source.kindAt? keys = target.kindAt? keys

/-- The keys of every sequence are `"0"`, `"1"` and so on. -/
def Indexed (document : Document) : Prop :=
  ∀ keys entries, document.follow? keys = some (collection .sequence entries) →
    Keyed.keys entries = (List.range entries.length).map toString

/--
No sequence of the first document has two or more items that the second has not.
-/
def LosesAtMostOne (source target : Document) : Prop :=
  ∀ keys before after,
    source.follow? keys = some (collection .sequence before) →
      target.follow? keys = some (collection .sequence after) →
        before.length ≤ after.length + 1

/-- Well-formed documents with the same collections at the same places. -/
structure Aligned (source target : Document) : Prop where
  distinctSource : source.DistinctKeys
  distinctTarget : target.DistinctKeys
  recognizedSource : source.hasUnrecognized = false
  recognizedTarget : target.hasUnrecognized = false
  indexedSource : source.Indexed
  indexedTarget : target.Indexed
  sameContainers : SameContainers source target

theorem kindAt?_cons
    (document : Document)
    (key : String)
    (keys : List String) :
    document.kindAt? (key :: keys) =
      (document.find? key).bind (·.kindAt? keys) := by
  rw [kindAt?, follow?_cons]
  cases document.find? key <;> rfl

/-! ## Children -/

section Child

variable
    {kind otherKind : CollectionKind}
    {entries before after : List (String × Document)}
    {key : String}
    {child other : Document}

theorem follow?_collection_cons
    (isChild : Keyed.find? key entries = some child)
    (keys : List String) :
    (collection kind entries).follow? (key :: keys) = child.follow? keys := by
  rw [follow?_cons, find?_collection, isChild, Option.bind_some]

theorem hasUnrecognized_child
    (recognized : (collection kind entries).hasUnrecognized = false)
    (isChild : Keyed.find? key entries = some child) :
    child.hasUnrecognized = false := by
  rw [hasUnrecognized, Bool.eq_false_iff, ne_eq, anyUnrecognized_iff]
    at recognized
  rw [Bool.eq_false_iff]
  intro found
  exact
    recognized ⟨key, child, Keyed.mem_of_find?_eq_some isChild, found⟩

theorem Indexed.descend
    (indexed : (collection kind entries).Indexed)
    (isChild : Keyed.find? key entries = some child) :
    child.Indexed := by
  intro keys inner found
  exact
    indexed (key :: keys) inner
      ((follow?_collection_cons isChild keys).trans found)

/-- A child that only one of two documents has is no collection. -/
theorem SameContainers.eq_scalar
    (sameContainers :
      SameContainers (collection kind before) (collection otherKind after))
    (recognized : (collection kind before).hasUnrecognized = false)
    (isChild : Keyed.find? key before = some child)
    (absent : Keyed.find? key after = none) :
    ∃ value, child = scalar value := by
  have noKind : child.kindAt? [] = none := by
    have same := sameContainers [key]
    rw [kindAt?_cons, kindAt?_cons, find?_collection, find?_collection,
      isChild, absent] at same
    exact same
  have childRecognized := hasUnrecognized_child recognized isChild
  cases child with
  | scalar value => exact ⟨value, rfl⟩
  | unrecognized value => cases childRecognized
  | collection kind entries => cases noKind

/--
What two documents lose is what two collections lose and what their common
children lose.
-/
theorem losesAtMostOne_collection_iff :
    LosesAtMostOne (collection kind before) (collection kind after) ↔
      (kind = .sequence → before.length ≤ after.length + 1)
        ∧ ∀ key child other,
            Keyed.find? key before = some child →
              Keyed.find? key after = some other →
                LosesAtMostOne child other := by
  constructor
  · intro loses
    constructor
    · rintro rfl
      exact loses [] before after rfl rfl
    · intro key child other isBefore isAfter keys inner otherInner found otherFound
      exact
        loses (key :: keys) inner otherInner
          ((follow?_collection_cons isBefore keys).trans found)
          ((follow?_collection_cons isAfter keys).trans otherFound)
  · rintro ⟨root, children⟩ keys inner otherInner found otherFound
    cases keys with
    | nil =>
        cases found
        cases otherFound
        exact root rfl
    | cons key rest =>
        rw [follow?_cons, find?_collection, Option.bind_eq_some_iff]
          at found otherFound
        rcases found with ⟨child, isBefore, below⟩
        rcases otherFound with ⟨other, isAfter, otherBelow⟩
        exact
          children key child other isBefore isAfter rest inner otherInner
            below otherBelow

end Child

theorem losesAtMostOne_scalar (old : Scalar) (target : Document) :
    LosesAtMostOne (scalar old) target := by
  intro keys before after found
  cases keys with
  | nil => cases found
  | cons key rest => cases found

/-! ## Aligned documents -/

namespace Aligned

theorem symm
    {source target : Document}
    (aligned : Aligned source target) :
    Aligned target source where
  distinctSource := aligned.distinctTarget
  distinctTarget := aligned.distinctSource
  recognizedSource := aligned.recognizedTarget
  recognizedTarget := aligned.recognizedSource
  indexedSource := aligned.indexedTarget
  indexedTarget := aligned.indexedSource
  sameContainers keys := (aligned.sameContainers keys).symm

section Collection

variable
    {kind otherKind : CollectionKind}
    {before after : List (String × Document)}
    {key : String}
    {child other : Document}
    (aligned :
      Aligned (collection kind before) (collection otherKind after))

include aligned

/-- Children under a common key are aligned. -/
theorem descend
    (isBefore : Keyed.find? key before = some child)
    (isAfter : Keyed.find? key after = some other) :
    Aligned child other where
  distinctSource := aligned.distinctSource.descend isBefore
  distinctTarget := aligned.distinctTarget.descend isAfter
  recognizedSource := hasUnrecognized_child aligned.recognizedSource isBefore
  recognizedTarget := hasUnrecognized_child aligned.recognizedTarget isAfter
  indexedSource := aligned.indexedSource.descend isBefore
  indexedTarget := aligned.indexedTarget.descend isAfter
  sameContainers keys := by
    have same := aligned.sameContainers (key :: keys)
    rw [kindAt?_cons, kindAt?_cons, find?_collection, find?_collection,
      isBefore, isAfter] at same
    exact same

/-- A child that the second document has not is a scalar. -/
theorem eq_scalar
    (isBefore : Keyed.find? key before = some child)
    (absent : Keyed.find? key after = none) :
    ∃ value, child = scalar value :=
  aligned.sameContainers.eq_scalar aligned.recognizedSource isBefore absent

theorem nodup_keys : (Keyed.keys before).Nodup :=
  aligned.distinctSource.nodup

theorem find?_eq_some
    (member : (key, child) ∈ before) :
    Keyed.find? key before = some child :=
  aligned.distinctSource.find?_eq_some member

end Collection

/--
Two aligned documents are scalars, or collections of one kind for whose common
children the claim holds already.
-/
theorem induction
    {motive : ∀ source target, Aligned source target → Prop}
    (scalars :
      ∀ old new aligned, motive (scalar old) (scalar new) aligned)
    (collections :
      ∀ kind before after
        (aligned :
          Aligned (collection kind before) (collection kind after)),
        (∀ key child other
          (isBefore : Keyed.find? key before = some child)
          (isAfter : Keyed.find? key after = some other),
            motive child other (aligned.descend isBefore isAfter)) →
              motive (collection kind before) (collection kind after)
                aligned)
    (source target : Document)
    (aligned : Aligned source target) :
    motive source target aligned := by
  have distinctSource := aligned.distinctSource
  have distinctTarget := aligned.distinctTarget
  induction source, target, distinctSource, distinctTarget
    using pairInduction with
  | unrecognized source target _ _ unrecognized =>
      rcases unrecognized with atSource | atTarget
      · have found := hasUnrecognized_of_isUnrecognized atSource
        rw [aligned.recognizedSource] at found
        cases found
      · have found := hasUnrecognized_of_isUnrecognized atTarget
        rw [aligned.recognizedTarget] at found
        cases found
  | scalars old new => exact scalars old new aligned
  | scalarCollection old kind after => cases aligned.sameContainers []
  | collectionScalar kind before new => cases aligned.sameContainers []
  | collections kind otherKind before after distinctSource distinctTarget ih =>
      have sameKind : kind = otherKind :=
        Option.some.inj (aligned.sameContainers [])
      subst sameKind
      refine collections kind before after aligned ?_
      intro key child other isBefore isAfter
      exact
        ih key child other isBefore isAfter
          (aligned.descend isBefore isAfter)

end Aligned

/-! ## Sequences of scalars -/

theorem eq_scalar_of_mem_sequence
    {items : List Scalar}
    {key : String}
    {child : Document}
    (member : (key, child) ∈ (Collection.sequence (items.map scalar)).entries) :
    ∃ value, child = scalar value := by
  rcases List.mem_map.mp (Keyed.mem_of_mem_indexed member) with
    ⟨value, -, equal⟩
  exact ⟨value, equal.symm⟩

theorem distinctKeys_scalars (items : List Scalar) :
    (Collection.sequence (items.map scalar)).toDocument.DistinctKeys := by
  apply Collection.distinctKeys_sequence
  intro item member
  rcases List.mem_map.mp member with ⟨value, -, rfl⟩
  trivial

theorem hasUnrecognized_sequence (items : List Scalar) :
    (Collection.sequence (items.map scalar)).toDocument.hasUnrecognized =
      false := by
  rw [Collection.toDocument, hasUnrecognized, Bool.eq_false_iff, ne_eq,
    anyUnrecognized_iff]
  rintro ⟨key, child, member, found⟩
  rcases eq_scalar_of_mem_sequence member with ⟨value, rfl⟩
  cases found

theorem follow?_sequence
    {items : List Scalar}
    {key : String}
    {keys : List String}
    {node : Document}
    (found :
      (Collection.sequence (items.map scalar)).toDocument.follow?
        (key :: keys) = some node) :
    ∃ value, node = scalar value := by
  rw [follow?_cons, Option.bind_eq_some_iff] at found
  rcases found with ⟨child, isChild, found⟩
  rcases eq_scalar_of_mem_sequence (Keyed.mem_of_find?_eq_some isChild) with
    ⟨value, rfl⟩
  cases keys with
  | nil => exact ⟨value, (Option.some.inj found).symm⟩
  | cons next rest => cases found

theorem indexed_sequence (items : List Scalar) :
    (Collection.sequence (items.map scalar)).toDocument.Indexed := by
  intro keys entries found
  cases keys with
  | nil =>
      cases found
      rw [Collection.sequence, Keyed.keys_indexed, Keyed.length_indexed,
        List.range_eq_range']
  | cons key rest =>
      rcases follow?_sequence found with ⟨value, equal⟩
      cases equal

theorem kindAt?_sequence (items : List Scalar) (key : String) (keys : List String) :
    (Collection.sequence (items.map scalar)).toDocument.kindAt?
      (key :: keys) = none := by
  rw [kindAt?]
  cases found :
      (Collection.sequence (items.map scalar)).toDocument.follow?
        (key :: keys) with
  | none => rfl
  | some node =>
      rcases follow?_sequence found with ⟨value, rfl⟩
      rfl

/-- Any two arrays of scalars are aligned. -/
theorem aligned_sequence (items others : List Scalar) :
    Aligned (Collection.sequence (items.map scalar)).toDocument
      (Collection.sequence (others.map scalar)).toDocument where
  distinctSource := distinctKeys_scalars items
  distinctTarget := distinctKeys_scalars others
  recognizedSource := hasUnrecognized_sequence items
  recognizedTarget := hasUnrecognized_sequence others
  indexedSource := indexed_sequence items
  indexedTarget := indexed_sequence others
  sameContainers keys := by
    cases keys with
    | nil => rfl
    | cons key rest => rw [kindAt?_sequence, kindAt?_sequence]

/-- An array of scalars is shortened by at most one if its length is. -/
theorem losesAtMostOne_sequence_iff (items others : List Scalar) :
    LosesAtMostOne (Collection.sequence (items.map scalar)).toDocument
        (Collection.sequence (others.map scalar)).toDocument ↔
      items.length ≤ others.length + 1 := by
  have length (values : List Scalar) :
      (Collection.sequence (values.map scalar)).entries.length =
        values.length := by
    rw [Collection.sequence, Keyed.length_indexed, List.length_map]
  constructor
  · intro loses
    have root := loses [] _ _ rfl rfl
    rwa [length, length] at root
  · intro short keys before after found
    cases keys with
    | nil =>
        intro otherFound
        cases found
        cases otherFound
        rwa [length, length]
    | cons key rest =>
        rcases follow?_sequence found with ⟨value, equal⟩
        cases equal

end LeafPatch.Document
