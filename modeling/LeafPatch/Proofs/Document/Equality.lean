import LeafPatch.Proofs.Document.Aligned
import LeafPatch.Proofs.Document.Similar

/-!
# Equality by value, place by place

Equality by value is decided by looking the entries of one collection up in the
other.  It can be said without any look-up: at every place both documents have
nothing, or scalars of the same value, or the same null or boolean, or
collections of the same kind.
-/

namespace LeafPatch.Document

/-- Two documents are the same at a place, whatever they have below it. -/
def SameNode : Option Document → Option Document → Prop
  | none, none => True
  | some (scalar left), some (scalar right) => left.sameValue right = true
  | some (unrecognized left), some (unrecognized right) => left = right
  | some (collection kind _), some (collection otherKind _) => kind = otherKind
  | _, _ => False

/-- Documents of the same value have children of the same value. -/
theorem find?_of_sameValue
    {left right : Document}
    (distinct : left.DistinctKeys)
    (same : left.sameValue right = true)
    (key : String) :
    Option.Rel (fun child other => child.sameValue other = true)
      (left.find? key) (right.find? key) := by
  rcases
      eq_none_or_eq_some_of_rel
        ((similar_of_sameValue distinct same).find? key) with
    ⟨isLeft, isRight⟩ | ⟨child, other, isLeft, isRight, -⟩
  · rw [isLeft, isRight]
    exact .none
  · cases left with
    | scalar value => cases isLeft
    | unrecognized value => cases isLeft
    | collection kind entries =>
        cases right with
        | scalar value => cases isRight
        | unrecognized value => cases isRight
        | collection otherKind others =>
            rw [sameValue_collection_iff, entriesFound_iff] at same
            rcases same.2.2 key child (Keyed.mem_of_find?_eq_some isLeft) with
              ⟨counterpart, isFound, sameChild⟩
            rw [isLeft, find?_collection, isFound]
            exact .some sameChild

theorem sameNode_of_sameValue
    {left right : Document}
    (distinct : left.DistinctKeys)
    (same : left.sameValue right = true)
    (keys : List String) :
    SameNode (left.follow? keys) (right.follow? keys) := by
  induction keys generalizing left right with
  | nil =>
      cases left <;> cases right <;>
        simp_all [sameValue, SameNode]
  | cons key rest ih =>
      rw [follow?_cons, follow?_cons]
      rcases eq_none_or_eq_some_of_rel (find?_of_sameValue distinct same key) with
        ⟨isLeft, isRight⟩ | ⟨child, other, isLeft, isRight, below⟩
      · rw [isLeft, isRight]
        trivial
      · rw [isLeft, isRight]
        have found : left.follow? [key] = some child := by
          rw [follow?_cons, isLeft]
          rfl
        exact ih (distinct.follow? found) below

/-- Keys that lead somewhere in one document lead somewhere in the other. -/
theorem isSome_of_sameNode
    {first second : Option Document}
    (same : SameNode first second) :
    first.isSome = second.isSome := by
  cases first with
  | none =>
      cases second with
      | none => rfl
      | some right => cases same
  | some left =>
      cases second with
      | none => cases left <;> cases same
      | some right => rfl

/-- Documents have the same value exactly if they are the same at every place. -/
theorem sameValue_iff_forall_sameNode
    {left right : Document}
    (distinctLeft : left.DistinctKeys)
    (distinctRight : right.DistinctKeys) :
    left.sameValue right = true ↔
      ∀ keys, SameNode (left.follow? keys) (right.follow? keys) := by
  constructor
  · exact sameNode_of_sameValue distinctLeft
  · intro same
    induction left generalizing right with
    | scalar value =>
        have atRoot := same []
        cases right with
        | scalar other => exact atRoot
        | unrecognized other => cases atRoot
        | collection kind entries => cases atRoot
    | unrecognized value =>
        have atRoot := same []
        cases right with
        | scalar other => cases atRoot
        | unrecognized other =>
            rw [sameValue, beq_iff_eq]
            exact atRoot
        | collection kind entries => cases atRoot
    | collection kind entries ih =>
        have atRoot := same []
        cases right with
        | scalar other => cases atRoot
        | unrecognized other => cases atRoot
        | collection otherKind others =>
            have sameKeys (key : String) :
                key ∈ Keyed.keys entries ↔ key ∈ Keyed.keys others := by
              have present := isSome_of_sameNode (same [key])
              rw [follow?_cons, follow?_cons, find?_collection,
                find?_collection] at present
              rw [← Keyed.isSome_find?_iff, ← Keyed.isSome_find?_iff]
              cases isLeft : Keyed.find? key entries <;>
                cases isRight : Keyed.find? key others <;>
                  simp_all
            rw [sameValue_collection_iff, entriesFound_iff]
            refine ⟨atRoot, ?_, ?_⟩
            · rw [← Keyed.length_keys entries, ← Keyed.length_keys others]
              exact
                ((List.perm_ext_iff_of_nodup distinctLeft.nodup
                  distinctRight.nodup).mpr sameKeys).length_eq
            · intro key child member
              have isChild := distinctLeft.find?_eq_some member
              have isKey := (sameKeys key).mp (Keyed.mem_keys_of_mem member)
              rw [← Keyed.isSome_find?_iff, Option.isSome_iff_exists] at isKey
              rcases isKey with ⟨other, isOther⟩
              refine ⟨other, isOther, ?_⟩
              apply
                ih key child member (distinctLeft.descend isChild)
                  (distinctRight.descend isOther)
              intro keys
              have below := same (key :: keys)
              rw [follow?_collection_cons isChild,
                follow?_collection_cons isOther] at below
              exact below

/-- At every place both documents have the same null or boolean, or none. -/
def SameUnrecognized (left right : Document) : Prop :=
  ∀ keys value,
    left.follow? keys = some (unrecognized value) ↔
      right.follow? keys = some (unrecognized value)

/-- What is the same at one place is a collection, a null or boolean, or a leaf. -/
theorem sameNode_follow?_iff
    {left right : Document}
    {keys : List String} :
    SameNode (left.follow? keys) (right.follow? keys) ↔
      left.kindAt? keys = right.kindAt? keys
        ∧ (∀ value,
            left.follow? keys = some (unrecognized value) ↔
              right.follow? keys = some (unrecognized value))
        ∧ Scalar.SameLeaf (left.scalarAt? keys) (right.scalarAt? keys) := by
  unfold kindAt? scalarAt?
  generalize left.follow? keys = first
  generalize right.follow? keys = second
  rcases first with - | ⟨leftScalar⟩ | ⟨kind, entries⟩ | ⟨leftValue⟩ <;>
    rcases second with - | ⟨rightScalar⟩ | ⟨otherKind, others⟩ | ⟨rightValue⟩ <;>
      simp [SameNode, scalar?, Scalar.SameLeaf]

/--
Documents have the same value exactly if they have the same collections, the same
nulls and booleans and leaves of the same value at the same places.
-/
theorem sameValue_iff_of_parts
    {left right : Document}
    (distinctLeft : left.DistinctKeys)
    (distinctRight : right.DistinctKeys) :
    left.sameValue right = true ↔
      SameContainers left right ∧ SameUnrecognized left right
        ∧ ∀ keys,
            Scalar.SameLeaf (left.scalarAt? keys) (right.scalarAt? keys) := by
  rw [sameValue_iff_forall_sameNode distinctLeft distinctRight, SameContainers,
    SameUnrecognized, ← forall_and, ← forall_and]
  exact forall_congr' fun keys => sameNode_follow?_iff

/--
Equality by value is an equivalence of documents in which no collection gives a
key twice: that it holds part by part is one.
-/
theorem sameValue_equivalence :
    Equivalence fun left right : {document : Document // document.DistinctKeys} =>
      left.val.sameValue right.val = true where
  refl document := by
    rw [sameValue_iff_of_parts document.property document.property]
    exact ⟨fun _ => rfl, fun _ _ => Iff.rfl, fun _ => Scalar.SameLeaf.refl _⟩
  symm {left right} same := by
    rw [sameValue_iff_of_parts left.property right.property] at same
    rw [sameValue_iff_of_parts right.property left.property]
    rcases same with ⟨containers, unrecognized, leaves⟩
    exact
      ⟨fun keys => (containers keys).symm,
        fun keys value => (unrecognized keys value).symm,
        fun keys => (leaves keys).symm⟩
  trans {first second third} before after := by
    rw [sameValue_iff_of_parts first.property second.property] at before
    rw [sameValue_iff_of_parts second.property third.property] at after
    rw [sameValue_iff_of_parts first.property third.property]
    rcases before with ⟨containersBefore, unrecognizedBefore, leavesBefore⟩
    rcases after with ⟨containersAfter, unrecognizedAfter, leavesAfter⟩
    exact
      ⟨fun keys => (containersBefore keys).trans (containersAfter keys),
        fun keys value =>
          (unrecognizedBefore keys value).trans (unrecognizedAfter keys value),
        fun keys => (leavesBefore keys).trans (leavesAfter keys)⟩

end LeafPatch.Document
