import LeafPatch.Document.Collection
import LeafPatch.Proofs.Document.Place

/-!
# Places in order

Two places of which neither is above the other part somewhere: up to there the
keys are the same, and from there they go on under different keys.  Whatever
order the keys have at the place where they part is an order of the two places.

For two documents at once the keys at a place are ranked.  Those that the first
document has there come first, in its order, and those that only the second has
follow, in its order.  A document that has no collection at the place, or is
missing, has no keys there.
-/

namespace LeafPatch

/-! ## Before and after in a list -/

/-- The first stands before the second in the list. -/
def Precedes {Item : Type} (list : List Item) (first second : Item) : Prop :=
  [first, second].Sublist list

namespace Precedes

variable {Item : Type} {list : List Item} {first second : Item}

theorem ne
    (nodup : list.Nodup)
    (precedes : Precedes list first second) :
    first ≠ second := by
  have pair : [first, second].Nodup := List.Nodup.sublist precedes nodup
  rintro rfl
  simp at pair

theorem asymm
    (nodup : list.Nodup)
    (precedes : Precedes list first second) :
    ¬ Precedes list second first := by
  intro back
  induction list with
  | nil => cases precedes
  | cons head rest ih =>
      rcases List.nodup_cons.mp nodup with ⟨fresh, later⟩
      rcases List.sublist_cons_iff.mp precedes with inRest | ⟨_, equal, isRest⟩
      · rcases List.sublist_cons_iff.mp back with backInRest | ⟨_, equal, -⟩
        · exact ih later inRest backInRest
        · cases equal
          exact fresh (inRest.subset (by simp))
      · cases equal
        rcases List.sublist_cons_iff.mp back with backInRest | ⟨_, equal, -⟩
        · exact fresh (backInRest.subset (by simp))
        · cases equal
          exact fresh (isRest.subset (by simp))

theorem total
    (isFirst : first ∈ list)
    (isSecond : second ∈ list)
    (different : first ≠ second) :
    Precedes list first second ∨ Precedes list second first := by
  induction list with
  | nil => cases isFirst
  | cons head rest ih =>
      rcases List.mem_cons.mp isFirst with rfl | firstLater
      · have secondLater := List.mem_of_ne_of_mem different.symm isSecond
        exact Or.inl ((List.singleton_sublist.mpr secondLater).cons_cons first)
      · rcases List.mem_cons.mp isSecond with rfl | secondLater
        · exact Or.inr ((List.singleton_sublist.mpr firstLater).cons_cons second)
        · exact
            (ih firstLater secondLater).imp
              (List.Sublist.cons head) (List.Sublist.cons head)

end Precedes

/-! ## Ways that part -/

/-- Two ways part at a place, from where they go on under different keys. -/
def PartAt
    (left right place : List String)
    (key name : String) :
    Prop :=
  ∃ rest others,
    left = place ++ key :: rest ∧ right = place ++ name :: others
      ∧ key ≠ name

namespace PartAt

theorem symm
    {left right place : List String}
    {key name : String}
    (part : PartAt left right place key name) :
    PartAt right left place name key := by
  rcases part with ⟨rest, others, isLeft, isRight, different⟩
  exact ⟨others, rest, isRight, isLeft, different.symm⟩

theorem not_nil_left
    {right place : List String}
    {key name : String} :
    ¬ PartAt [] right place key name := by
  rintro ⟨rest, others, isLeft, -, -⟩
  simp at isLeft

theorem cons_cons_iff
    {first second key name : String}
    {left right place : List String} :
    PartAt (first :: left) (second :: right) place key name ↔
      (place = [] ∧ first = key ∧ second = name ∧ key ≠ name)
        ∨ ∃ below, place = first :: below ∧ first = second
            ∧ PartAt left right below key name := by
  constructor
  · rintro ⟨rest, others, isLeft, isRight, different⟩
    cases place with
    | nil =>
        cases isLeft
        cases isRight
        exact Or.inl ⟨rfl, rfl, rfl, different⟩
    | cons head below =>
        cases isLeft
        cases isRight
        exact Or.inr ⟨below, rfl, rfl, rest, others, rfl, rfl, different⟩
  · rintro (⟨rfl, rfl, rfl, different⟩
      | ⟨below, rfl, rfl, rest, others, rfl, rfl, different⟩)
    · exact ⟨left, right, rfl, rfl, different⟩
    · exact ⟨rest, others, rfl, rfl, different⟩

/-- Of two ways one is above the other, or they part somewhere. -/
theorem exists_of_not_comparable
    {left right : List String}
    (apart : ¬ Comparable left right) :
    ∃ place key name, PartAt left right place key name := by
  induction left generalizing right with
  | nil => exact absurd (Comparable.nil_left right) apart
  | cons first left ih =>
      cases right with
      | nil => exact absurd (Comparable.nil_right _) apart
      | cons second right =>
          by_cases same : first = second
          · subst same
            rw [Comparable.cons_cons, not_and] at apart
            rcases ih (apart rfl) with ⟨place, key, name, part⟩
            exact
              ⟨first :: place, key, name,
                cons_cons_iff.mpr (Or.inr ⟨place, rfl, rfl, part⟩)⟩
          · exact
              ⟨[], first, second,
                cons_cons_iff.mpr (Or.inl ⟨rfl, rfl, rfl, same⟩)⟩

end PartAt

/-! ## Ranked keys -/

/-- The keys of a list, and then those that only another has. -/
def rankedKeys (keys others : List String) : List String :=
  keys ++ others.filter fun key => key ∉ keys

@[simp]
theorem rankedKeys_nil_left (keys : List String) : rankedKeys [] keys = keys := by
  simp [rankedKeys]

@[simp]
theorem rankedKeys_nil_right (keys : List String) : rankedKeys keys [] = keys := by
  simp [rankedKeys]

theorem nodup_rankedKeys
    {keys others : List String}
    (nodup : keys.Nodup)
    (otherNodup : others.Nodup) :
    (rankedKeys keys others).Nodup := by
  rw [rankedKeys, List.nodup_append]
  refine ⟨nodup, otherNodup.filter _, ?_⟩
  rintro key member other isNew rfl
  simp [member] at isNew

namespace Document

/-- The collection at a place, if there is one. -/
def collectionAt? (document : Document) (place : List String) : Option Collection :=
  (document.follow? place).bind Collection.ofDocument?

/-- The keys at a place of a document that may be missing. -/
def keysAt (document : Option Document) (place : List String) : List String :=
  ((document.bind (·.collectionAt? place)).map Collection.keys).getD []

/-- The keys at a place of two documents, in the order in which they are walked. -/
def rankedAt (source target : Option Document) (place : List String) : List String :=
  rankedKeys (keysAt source place) (keysAt target place)

@[simp]
theorem keysAt_none (place : List String) : keysAt none place = [] :=
  rfl

@[simp]
theorem keysAt_scalar (value : Scalar) (place : List String) :
    keysAt (some (scalar value)) place = [] := by
  cases place <;> rfl

@[simp]
theorem keysAt_collection_nil
    (kind : CollectionKind)
    (entries : List (String × Document)) :
    keysAt (some (collection kind entries)) [] = Keyed.keys entries :=
  rfl

theorem keysAt_cons
    (document : Option Document)
    (key : String)
    (place : List String) :
    keysAt document (key :: place) =
      keysAt (document.bind (·.find? key)) place := by
  cases document with
  | none => rfl
  | some document =>
      simp only [keysAt, collectionAt?, Option.bind_some, follow?_cons]
      cases document.find? key <;> rfl

theorem nodup_keysAt
    {document : Document}
    (distinct : document.DistinctKeys)
    (place : List String) :
    (keysAt (some document) place).Nodup := by
  simp only [keysAt, collectionAt?, Option.bind_some]
  cases found : document.follow? place with
  | none => exact List.nodup_nil
  | some node =>
      cases node with
      | scalar value => exact List.nodup_nil
      | unrecognized value => exact List.nodup_nil
      | collection kind entries => exact (distinct.follow? found).nodup

end Document

end LeafPatch
