import LeafPatch.Document.Basic
import LeafPatch.Proofs.Keyed

/-!
# Places in documents

A place of a document is given by the keys that lead to it from the root.  This
module says what stands at a place, and when two documents share one.

All of it is about documents in which no collection gives a key twice, as every
mapping has it.  There the scalars listed by `Document.leaves` are exactly those
found by following keys, each is listed once, and none stands at, above or below
the place of another.
-/

namespace LeafPatch

/-- One of two places is the other, or lies above it. -/
def Comparable (left right : List String) : Prop :=
  left <+: right ∨ right <+: left

namespace Comparable

theorem symm
    {left right : List String}
    (comparable : Comparable left right) :
    Comparable right left :=
  Or.symm comparable

@[simp]
theorem nil_left (keys : List String) : Comparable [] keys :=
  Or.inl List.nil_prefix

@[simp]
theorem nil_right (keys : List String) : Comparable keys [] :=
  Or.inr List.nil_prefix

@[simp]
theorem cons_cons
    (key name : String)
    (left right : List String) :
    Comparable (key :: left) (name :: right) ↔
      key = name ∧ Comparable left right := by
  simp only [Comparable, List.cons_prefix_cons]
  constructor
  · rintro (⟨rfl, above⟩ | ⟨rfl, above⟩)
    · exact ⟨rfl, Or.inl above⟩
    · exact ⟨rfl, Or.inr above⟩
  · rintro ⟨rfl, above | above⟩
    · exact Or.inl ⟨rfl, above⟩
    · exact Or.inr ⟨rfl, above⟩

end Comparable

namespace Document

/-! ## Induction over documents -/

/--
What holds of a collection whenever it holds of all its children holds of all
documents.
-/
@[elab_as_elim, induction_eliminator]
theorem induction
    {motive : Document → Prop}
    (scalar : ∀ value, motive (scalar value))
    (unrecognized : ∀ value, motive (unrecognized value))
    (collection :
      ∀ kind entries,
        (∀ key child, (key, child) ∈ entries → motive child) →
          motive (collection kind entries)) :
    ∀ document, motive document
  | .scalar value => scalar value
  | .unrecognized value => unrecognized value
  | .collection kind entries =>
      collection kind entries fun _ child member =>
        have := List.sizeOf_lt_of_mem member
        induction scalar unrecognized collection child
termination_by document => sizeOf document
decreasing_by
  simp only [Document.collection.sizeOf_spec, Prod.mk.sizeOf_spec] at *
  omega

/-! ## Distinct keys -/

mutual

/-- No collection of the document gives a key twice. -/
def DistinctKeys : Document → Prop
  | scalar _ => True
  | unrecognized _ => True
  | collection _ entries =>
      (Keyed.keys entries).Nodup ∧ DistinctKeysWithin entries

/-- No collection of any child gives a key twice. -/
def DistinctKeysWithin : List (String × Document) → Prop
  | [] => True
  | (_, child) :: rest => child.DistinctKeys ∧ DistinctKeysWithin rest

end

theorem distinctKeysWithin_iff
    {entries : List (String × Document)} :
    DistinctKeysWithin entries ↔
      ∀ key child, (key, child) ∈ entries → child.DistinctKeys := by
  induction entries with
  | nil => simp [DistinctKeysWithin]
  | cons entry rest ih =>
      rcases entry with ⟨name, first⟩
      simp only [DistinctKeysWithin, ih, List.mem_cons]
      constructor
      · rintro ⟨head, tail⟩ key child (equal | later)
        · cases equal
          exact head
        · exact tail key child later
      · intro all
        exact
          ⟨all name first (Or.inl rfl),
            fun key child later => all key child (Or.inr later)⟩

theorem distinctKeys_collection_iff
    {kind : CollectionKind}
    {entries : List (String × Document)} :
    (collection kind entries).DistinctKeys ↔
      (Keyed.keys entries).Nodup ∧
        ∀ key child, (key, child) ∈ entries → child.DistinctKeys := by
  rw [DistinctKeys, distinctKeysWithin_iff]

section Distinct

variable
    {kind : CollectionKind}
    {entries : List (String × Document)}
    (distinct : (collection kind entries).DistinctKeys)

include distinct

theorem DistinctKeys.nodup : (Keyed.keys entries).Nodup :=
  (distinctKeys_collection_iff.mp distinct).1

theorem DistinctKeys.descend
    {key : String}
    {child : Document}
    (isChild : Keyed.find? key entries = some child) :
    child.DistinctKeys :=
  (distinctKeys_collection_iff.mp distinct).2 key child
    (Keyed.mem_of_find?_eq_some isChild)

theorem DistinctKeys.find?_eq_some
    {key : String}
    {child : Document}
    (member : (key, child) ∈ entries) :
    Keyed.find? key entries = some child :=
  (Keyed.find?_eq_some_iff distinct.nodup).mpr member

end Distinct

/-! ## Induction over two documents -/

/-- Whether the document is a null or boolean. -/
def isUnrecognized : Document → Bool
  | unrecognized _ => true
  | _ => false

theorem exists_eq_unrecognized
    {document : Document}
    (isNullOrBool : document.isUnrecognized = true) :
    ∃ value, document = unrecognized value := by
  cases document with
  | scalar value => cases isNullOrBool
  | unrecognized value => exact ⟨value, rfl⟩
  | collection kind entries => cases isNullOrBool

/--
Two documents are walked side by side.  The walk ends where one of them is
unrecognized or a scalar, and from two collections it goes on to the children
under each common key.
-/
theorem pairInduction
    {motive :
      ∀ source target : Document,
        source.DistinctKeys → target.DistinctKeys → Prop}
    (unrecognized :
      ∀ source target distinctSource distinctTarget,
        source.isUnrecognized = true ∨ target.isUnrecognized = true →
          motive source target distinctSource distinctTarget)
    (scalars :
      ∀ old new distinctSource distinctTarget,
        motive (scalar old) (scalar new) distinctSource distinctTarget)
    (scalarCollection :
      ∀ old kind after distinctSource distinctTarget,
        motive (scalar old) (collection kind after)
          distinctSource distinctTarget)
    (collectionScalar :
      ∀ kind before new distinctSource distinctTarget,
        motive (collection kind before) (scalar new)
          distinctSource distinctTarget)
    (collections :
      ∀ kind otherKind before after
        (distinctSource : (collection kind before).DistinctKeys)
        (distinctTarget : (collection otherKind after).DistinctKeys),
        (∀ key child other
          (isBefore : Keyed.find? key before = some child)
          (isAfter : Keyed.find? key after = some other),
            motive child other (distinctSource.descend isBefore)
              (distinctTarget.descend isAfter)) →
          motive (collection kind before) (collection otherKind after)
            distinctSource distinctTarget)
    (source target : Document)
    (distinctSource : source.DistinctKeys)
    (distinctTarget : target.DistinctKeys) :
    motive source target distinctSource distinctTarget := by
  induction source generalizing target with
  | unrecognized old => exact unrecognized _ _ _ _ (Or.inl rfl)
  | scalar old =>
      cases target with
      | scalar new => exact scalars old new _ _
      | unrecognized new => exact unrecognized _ _ _ _ (Or.inr rfl)
      | collection kind after => exact scalarCollection old kind after _ _
  | collection kind before ih =>
      cases target with
      | scalar new => exact collectionScalar kind before new _ _
      | unrecognized new => exact unrecognized _ _ _ _ (Or.inr rfl)
      | collection otherKind after =>
          apply collections
          intro key child other isBefore isAfter
          exact
            ih key child (Keyed.mem_of_find?_eq_some isBefore) other _ _

/-! ## What stands at a place -/

/-- The scalar that the document is, if it is one. -/
def scalar? : Document → Option Scalar
  | scalar value => some value
  | _ => none

/-- The scalar at a place: the map of the leaves of a document. -/
def scalarAt? (document : Document) (keys : List String) : Option Scalar :=
  (document.follow? keys).bind scalar?

@[simp]
theorem follow?_nil (document : Document) :
    document.follow? [] = some document :=
  rfl

theorem follow?_cons
    (document : Document)
    (key : String)
    (keys : List String) :
    document.follow? (key :: keys) =
      (document.find? key).bind (·.follow? keys) := by
  rw [follow?]
  cases document.find? key <;> rfl

@[simp]
theorem find?_scalar (value : Scalar) (key : String) :
    (scalar value).find? key = none :=
  rfl

@[simp]
theorem find?_unrecognized (value : Unrecognized) (key : String) :
    (unrecognized value).find? key = none :=
  rfl

@[simp]
theorem find?_collection
    (kind : CollectionKind)
    (entries : List (String × Document))
    (key : String) :
    (collection kind entries).find? key = Keyed.find? key entries :=
  rfl

/-- Following keys one after the other can be cut anywhere. -/
theorem follow?_append
    (document : Document)
    (keys others : List String) :
    document.follow? (keys ++ others) =
      (document.follow? keys).bind (·.follow? others) := by
  induction keys generalizing document with
  | nil => rfl
  | cons key rest ih =>
      rw [List.cons_append, follow?_cons, follow?_cons]
      cases document.find? key with
      | none => rfl
      | some child => exact ih child

theorem DistinctKeys.follow?
    {document node : Document}
    (distinct : document.DistinctKeys)
    {place : List String}
    (found : document.follow? place = some node) :
    node.DistinctKeys := by
  induction place generalizing document with
  | nil =>
      cases found
      exact distinct
  | cons key rest ih =>
      rw [follow?_cons, Option.bind_eq_some_iff] at found
      rcases found with ⟨child, isChild, found⟩
      cases document with
      | scalar value => cases isChild
      | unrecognized value => cases isChild
      | collection kind entries => exact ih (distinct.descend isChild) found

/-- Below a place without children there is nothing. -/
theorem eq_of_prefix_of_follow?
    {document node : Document}
    {keys others : List String}
    (above : keys <+: others)
    (found : document.follow? keys = some node)
    (childless : node.isCollection = false)
    (present : (document.follow? others).isSome) :
    keys = others := by
  rcases above with ⟨rest, rfl⟩
  rw [follow?_append, found, Option.bind_some] at present
  cases rest with
  | nil => simp
  | cons key rest =>
      cases node with
      | scalar value => simp [follow?_cons] at present
      | unrecognized value => simp [follow?_cons] at present
      | collection kind entries => simp [isCollection] at childless

@[simp]
theorem scalarAt?_nil (document : Document) :
    document.scalarAt? [] = document.scalar? :=
  rfl

theorem scalarAt?_cons
    (document : Document)
    (key : String)
    (keys : List String) :
    document.scalarAt? (key :: keys) =
      (document.find? key).bind (·.scalarAt? keys) := by
  rw [scalarAt?, follow?_cons, Option.bind_assoc]
  rfl

theorem scalarAt?_eq_some_iff
    {document : Document}
    {keys : List String}
    {value : Scalar} :
    document.scalarAt? keys = some value ↔
      document.follow? keys = some (scalar value) := by
  rw [scalarAt?, Option.bind_eq_some_iff]
  constructor
  · rintro ⟨node, found, isValue⟩
    cases node with
    | scalar inner =>
        cases isValue
        exact found
    | unrecognized inner => cases isValue
    | collection kind entries => cases isValue
  · intro found
    exact ⟨scalar value, found, rfl⟩

/-- Two leaves of a document never stand on one way. -/
theorem scalarAt?_prefixFree
    {document : Document}
    {keys others : List String}
    {value other : Scalar}
    (found : document.scalarAt? keys = some value)
    (otherFound : document.scalarAt? others = some other)
    (comparable : Comparable keys others) :
    keys = others := by
  rw [scalarAt?_eq_some_iff] at found otherFound
  rcases comparable with above | below
  · exact eq_of_prefix_of_follow? above found rfl (by simp [otherFound])
  · exact (eq_of_prefix_of_follow? below otherFound rfl (by simp [found])).symm

end Document

end LeafPatch
