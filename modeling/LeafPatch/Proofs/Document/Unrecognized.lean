import LeafPatch.Proofs.Document.Place

/-!
# Unrecognized values

Whether there is a null or boolean anywhere in a document is found by walking
it.  The same can be said by places: one of them leads to an unrecognized value.
-/

namespace LeafPatch.Document

/-- A null or boolean stands at the place. -/
def UnrecognizedAt (document : Document) (keys : List String) : Prop :=
  ∃ value, document.follow? keys = some (unrecognized value)

theorem unrecognizedAt_nil_iff
    {document : Document} :
    document.UnrecognizedAt [] ↔ document.isUnrecognized = true := by
  cases document <;> simp [UnrecognizedAt, isUnrecognized]

theorem unrecognizedAt_cons_iff
    {document : Document}
    {key : String}
    {keys : List String} :
    document.UnrecognizedAt (key :: keys) ↔
      ∃ child, document.find? key = some child
        ∧ child.UnrecognizedAt keys := by
  simp only [UnrecognizedAt, follow?_cons, Option.bind_eq_some_iff]
  constructor
  · rintro ⟨value, child, isChild, found⟩
    exact ⟨child, isChild, value, found⟩
  · rintro ⟨child, isChild, value, found⟩
    exact ⟨value, child, isChild, found⟩

@[simp]
theorem not_unrecognizedAt_scalar
    (value : Scalar)
    (keys : List String) :
    ¬ (scalar value).UnrecognizedAt keys := by
  rintro ⟨inner, found⟩
  cases keys with
  | nil => cases found
  | cons key rest => cases found

theorem exists_unrecognizedAt_collection_iff
    {kind : CollectionKind}
    {entries : List (String × Document)} :
    (∃ keys, (collection kind entries).UnrecognizedAt keys) ↔
      ∃ key child, Keyed.find? key entries = some child
        ∧ ∃ keys, child.UnrecognizedAt keys := by
  constructor
  · rintro ⟨keys, found⟩
    cases keys with
    | nil => simp [unrecognizedAt_nil_iff, isUnrecognized] at found
    | cons key rest =>
        rcases unrecognizedAt_cons_iff.mp found with ⟨child, isChild, below⟩
        exact ⟨key, child, isChild, rest, below⟩
  · rintro ⟨key, child, isChild, rest, below⟩
    exact ⟨key :: rest, unrecognizedAt_cons_iff.mpr ⟨child, isChild, below⟩⟩

theorem hasUnrecognized_of_isUnrecognized
    {document : Document}
    (unrecognized : document.isUnrecognized = true) :
    document.hasUnrecognized = true := by
  rcases exists_eq_unrecognized unrecognized with ⟨value, rfl⟩
  rfl

theorem anyUnrecognized_iff
    {entries : List (String × Document)} :
    anyUnrecognized entries = true ↔
      ∃ key child, (key, child) ∈ entries
        ∧ child.hasUnrecognized = true := by
  induction entries with
  | nil => simp [anyUnrecognized]
  | cons entry rest ih =>
      rcases entry with ⟨name, first⟩
      rw [anyUnrecognized, Bool.or_eq_true, ih]
      constructor
      · rintro (head | ⟨key, child, member, tail⟩)
        · exact ⟨name, first, List.mem_cons_self, head⟩
        · exact ⟨key, child, List.mem_cons_of_mem _ member, tail⟩
      · rintro ⟨key, child, member, found⟩
        rcases List.mem_cons.mp member with equal | later
        · cases equal
          exact Or.inl found
        · exact Or.inr ⟨key, child, later, found⟩

/-- Something in the document is unrecognized exactly if it is at some place. -/
theorem hasUnrecognized_iff
    {document : Document}
    (distinct : document.DistinctKeys) :
    document.hasUnrecognized = true ↔
      ∃ keys, document.UnrecognizedAt keys := by
  induction document with
  | scalar value => simp [hasUnrecognized]
  | unrecognized value =>
      simp only [hasUnrecognized, true_iff]
      exact ⟨[], value, rfl⟩
  | collection kind entries ih =>
      rcases distinctKeys_collection_iff.mp distinct with ⟨nodup, children⟩
      rw [hasUnrecognized, anyUnrecognized_iff,
        exists_unrecognizedAt_collection_iff]
      constructor
      · rintro ⟨key, child, member, found⟩
        exact
          ⟨key, child, (Keyed.find?_eq_some_iff nodup).mpr member,
            (ih key child member (children key child member)).mp found⟩
      · rintro ⟨key, child, isChild, found⟩
        have member := Keyed.mem_of_find?_eq_some isChild
        exact
          ⟨key, child, member,
            (ih key child member (children key child member)).mpr found⟩

end LeafPatch.Document
