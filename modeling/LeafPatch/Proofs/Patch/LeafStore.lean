import LeafPatch.Patch.Draft
import LeafPatch.Proofs.Document.Leaves
import LeafPatch.Proofs.Pointer.Decoding

/-!
# Stores of leaves

A store keeps scalars under pointers and knows nothing of the tree that they
come from.  Operations are applied to it one after the other: additions and
replacements set one pointer, removals clear one, and nothing else moves.

An operation takes the store to be in a certain state.  A removal expects its
value to be there, a replacement a different one, and an addition nothing, not
even above or below its pointer.  As long as each operation finds the store as
it takes it to be, no stored pointer ever goes on where another one ends.
-/

namespace LeafPatch

/-- What an operation leaves under its pointer. -/
def Operation.result (operation : Operation) : Option Scalar :=
  match operation.action, operation.value with
  | .remove, _ => none
  | _, .scalar value => some value
  | _, _ => none

/-- Scalars kept under pointers. -/
def LeafStore : Type :=
  String → Option Scalar

namespace LeafStore

/-- The store of the leaves of a document that stands under a pointer. -/
def ofDocument
    (style : Pointer.Style)
    (pointer : String)
    (document : Document) :
    LeafStore :=
  fun other =>
    Keyed.find? other
      (document.leaves.map fun leaf =>
        (Pointer.descend style pointer leaf.1, leaf.2))

/-- Sets or clears one pointer. -/
def apply (store : LeafStore) (operation : Operation) : LeafStore :=
  fun pointer =>
    if pointer = operation.path then operation.result else store pointer

/-- Applies operations one after the other. -/
def run (store : LeafStore) (operations : List Operation) : LeafStore :=
  operations.foldl apply store

/-- The store is in the state in which the operation takes it to be. -/
def Admits (store : LeafStore) (operation : Operation) : Prop :=
  ∃ value, operation.value = .scalar value
    ∧ match operation.action with
      | .remove => store operation.path = some value
      | .replace =>
          ∃ old, store operation.path = some old
            ∧ old.sameValue value = false
      | .add =>
          store operation.path = none
            ∧ ∀ pointer, (store pointer).isSome →
                ¬ Pointer.Above pointer operation.path
                  ∧ ¬ Pointer.Above operation.path pointer

/-- No stored pointer goes on where another one ends. -/
def PrefixFree (store : LeafStore) : Prop :=
  ∀ upper lower, (store upper).isSome → (store lower).isSome →
    ¬ Pointer.Above upper lower

/-! ## Applying operations -/

theorem apply_self (store : LeafStore) (operation : Operation) :
    store.apply operation operation.path = operation.result :=
  if_pos rfl

theorem apply_of_ne
    (store : LeafStore)
    {operation : Operation}
    {pointer : String}
    (different : pointer ≠ operation.path) :
    store.apply operation pointer = store pointer :=
  if_neg different

theorem run_append
    (store : LeafStore)
    (operations others : List Operation) :
    store.run (operations ++ others) = (store.run operations).run others :=
  List.foldl_append

/-- Operations on other pointers leave a pointer as it is. -/
theorem run_of_forall_ne
    (store : LeafStore)
    {operations : List Operation}
    {pointer : String}
    (different : ∀ operation ∈ operations, pointer ≠ operation.path) :
    store.run operations pointer = store pointer := by
  induction operations generalizing store with
  | nil => rfl
  | cons first rest ih =>
      have later :=
        ih (store.apply first) fun operation member =>
          different operation (List.mem_cons_of_mem _ member)
      exact later.trans
        (apply_of_ne store (different first List.mem_cons_self))

/-- The last operation on a pointer decides what is there. -/
theorem run_of_mem
    (store : LeafStore)
    {before after : List Operation}
    {operation : Operation}
    (last : ∀ later ∈ after, operation.path ≠ later.path) :
    store.run (before ++ operation :: after) operation.path =
      operation.result := by
  rw [run_append]
  exact
    (run_of_forall_ne ((store.run before).apply operation) last).trans
      (apply_self (store.run before) operation)

/-- What is stored was stored at the start or written by an operation. -/
theorem isSome_run
    {store : LeafStore}
    {operations : List Operation}
    {pointer : String}
    (stored : (store.run operations pointer).isSome) :
    (store pointer).isSome
      ∨ ∃ operation ∈ operations, pointer = operation.path := by
  by_cases written : ∃ operation ∈ operations, pointer = operation.path
  · exact Or.inr written
  · rw [run_of_forall_ne store fun operation member same =>
      written ⟨operation, member, same⟩] at stored
    exact Or.inl stored

/-! ## Prefix-freeness -/

theorem not_above_self (pointer : String) :
    ¬ Pointer.Above pointer pointer := by
  rintro ⟨rest, equal⟩
  have sameLength := congrArg (fun text => text.toList.length) equal
  simp only [String.toList_append, List.length_append] at sameLength
  have : "/".toList.length = 1 := rfl
  omega

/-- An operation that the store admits keeps the store prefix-free. -/
theorem PrefixFree.apply
    {store : LeafStore}
    {operation : Operation}
    (free : store.PrefixFree)
    (admits : store.Admits operation) :
    (store.apply operation).PrefixFree := by
  intro upper lower upperStored lowerStored above
  rcases operation with ⟨action, path, document⟩
  rcases admits with ⟨value, rfl, state⟩
  by_cases upperWritten : upper = path
  · subst upperWritten
    by_cases lowerWritten : lower = upper
    · subst lowerWritten
      exact not_above_self lower above
    · rw [apply_of_ne store lowerWritten] at lowerStored
      cases action with
      | add => exact (state.2 lower lowerStored).2 above
      | remove => simp [LeafStore.apply, Operation.result] at upperStored
      | replace =>
          rcases state with ⟨old, stored, -⟩
          exact free upper lower (by simp [stored]) lowerStored above
  · rw [apply_of_ne store upperWritten] at upperStored
    by_cases lowerWritten : lower = path
    · subst lowerWritten
      cases action with
      | add => exact (state.2 upper upperStored).1 above
      | remove => simp [LeafStore.apply, Operation.result] at lowerStored
      | replace =>
          rcases state with ⟨old, stored, -⟩
          exact free upper lower upperStored (by simp [stored]) above
    · rw [apply_of_ne store lowerWritten] at lowerStored
      exact free upper lower upperStored lowerStored above

/-- A run whose operations are all admitted keeps the store prefix-free. -/
theorem PrefixFree.run
    {store : LeafStore}
    {operations : List Operation}
    (free : store.PrefixFree)
    (admits :
      ∀ done operation rest, operations = done ++ operation :: rest →
        (store.run done).Admits operation) :
    (store.run operations).PrefixFree := by
  induction operations generalizing store with
  | nil => exact free
  | cons first rest ih =>
      refine ih (free.apply (admits [] first rest rfl)) ?_
      rintro done operation others rfl
      exact admits (first :: done) operation others rfl

end LeafStore

end LeafPatch
