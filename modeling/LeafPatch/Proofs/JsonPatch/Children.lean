import LeafPatch.Proofs.JsonPatch.Changes

/-!
# Changes of a whole container

The changes between two aligned collections are run on the container that the
first one is.  A child that both have is changed where it stands, one that only
the first has is taken out, and those that only the second has are appended.

In an object this works out always.  In an array it does as long as at most the
last item is taken out: what stands behind a removed item is not where its key
says any more.  If two or more items are to go, the last of the removals is
beyond the end of what the others have left, and the whole run fails.
-/

namespace LeafPatch.Document

open Change JsonPatch

/-- What becomes of the children of a document that another has as well. -/
def survivors? :
    List (String × Document) → List (String × Document) →
      Option (List (String × Json))
  | [], _ => some []
  | (key, child) :: rest, after =>
      match Keyed.find? key after with
      | some other =>
          (run? (child.changes other) child.toJson).bind fun json =>
            (survivors? rest after).map ((key, json) :: ·)
      | none => survivors? rest after

/-- The entries whose keys are not among those of others. -/
def newcomers
    (before after : List (String × Document)) :
    List (String × Document) :=
  after.filter fun entry => !Keyed.contains entry.1 before

/-! ## Children that are there before -/

theorem run?_removal
    {kind : CollectionKind}
    {before after : List (String × Json)}
    {key : String}
    {json : Json}
    (wellKeyed :
      WellKeyed kind (Keyed.keys (before ++ (key, json) :: after)))
    (value : Scalar) :
    run? ((onLeaves .remove (scalar value)).map (under key))
        (ofFields kind (before ++ (key, json) :: after)) =
      some (ofFields kind (before ++ after)) := by
  have removed := removeChild?_ofFields wellKeyed
  simp [onLeaves, leaves, ofLeaf, under, run?_cons, applyTo?, edit,
    Edit.applyAt?, Edit.atChild?, removed]

/--
Child by child from the first to the last.  What has been passed stands before
what is still to come, and of an array only the last item may go.
-/
theorem run?_changesWithin
    {kind : CollectionKind}
    {before rest after : List (String × Document)}
    {done : List (String × Json)}
    (aligned : Aligned (collection kind before) (collection kind after))
    (within : rest ⊆ before)
    (wellKeyed : WellKeyed kind (Keyed.keys (done ++ toJsonFields rest)))
    (lastOnly :
      kind = .sequence →
        ∀ entry ∈ rest.dropLast, Keyed.find? entry.1 after ≠ none) :
    run? (changesWithin rest after)
        (ofFields kind (done ++ toJsonFields rest)) =
      (survivors? rest after).map fun fields =>
        ofFields kind (done ++ fields) := by
  induction rest generalizing done with
  | nil => simp [changesWithin, survivors?, toJsonFields]
  | cons entry rest ih =>
      rcases entry with ⟨key, child⟩
      have isBefore :=
        aligned.find?_eq_some (within List.mem_cons_self)
      have laterWithin : rest ⊆ before :=
        fun entry member => within (List.mem_cons_of_mem _ member)
      have laterLastOnly :
          kind = .sequence →
            ∀ entry ∈ rest.dropLast, Keyed.find? entry.1 after ≠ none := by
        intro isSequence entry member
        have nonempty : rest ≠ [] := by
          rintro rfl
          cases member
        apply lastOnly isSequence
        rw [List.dropLast_cons_of_ne_nil nonempty]
        exact List.mem_cons_of_mem _ member
      rw [toJsonFields] at wellKeyed ⊢
      rw [changesWithin, run?_append, survivors?]
      cases isAfter : Keyed.find? key after with
      | some other =>
          simp only []
          rw [run?_under wellKeyed (aligned.descend isBefore isAfter).inPlace]
          cases run? (child.changes other) child.toJson with
          | none => rfl
          | some json =>
              have later :=
                @ih (done ++ [(key, json)]) laterWithin
                  (by simpa using wellKeyed) laterLastOnly
              simp only [List.append_assoc, List.singleton_append] at later
              simp only [Option.map_some, Option.bind_some, later,
                Option.map_map]
              rfl
      | none =>
          rcases aligned.eq_scalar isBefore isAfter with ⟨value, rfl⟩
          simp only []
          rw [run?_removal wellKeyed, Option.bind_some]
          apply ih laterWithin ?_ laterLastOnly
          rw [Keyed.keys_append, Keyed.keys_cons] at wellKeyed
          rw [Keyed.keys_append]
          apply wellKeyed.erase
          intro isSequence
          cases rest with
          | nil => rfl
          | cons next rest =>
              exact
                absurd isAfter
                  (lastOnly isSequence (key, scalar value)
                    List.mem_cons_self)

/-! ## What survives -/

theorem survivors?_cons_eq_some_iff
    {rest after : List (String × Document)}
    {key : String}
    {child other : Document}
    (isAfter : Keyed.find? key after = some other)
    {fields : List (String × Json)} :
    survivors? ((key, child) :: rest) after = some fields ↔
      ∃ json later, run? (child.changes other) child.toJson = some json
        ∧ survivors? rest after = some later
        ∧ fields = (key, json) :: later := by
  simp only [survivors?, isAfter, Option.bind_eq_some_iff,
    Option.map_eq_some_iff]
  constructor
  · rintro ⟨json, ran, later, survive, rfl⟩
    exact ⟨json, later, ran, survive, rfl⟩
  · rintro ⟨json, later, ran, survive, rfl⟩
    exact ⟨json, ran, later, survive, rfl⟩

theorem survivors?_cons_of_none
    {rest after : List (String × Document)}
    {key : String}
    {child : Document}
    (absent : Keyed.find? key after = none) :
    survivors? ((key, child) :: rest) after = survivors? rest after := by
  simp only [survivors?, absent]

theorem keys_survivors?
    {before after : List (String × Document)}
    {fields : List (String × Json)}
    (survive : survivors? before after = some fields) :
    Keyed.keys fields =
      (Keyed.keys before).filter (fun key => key ∈ Keyed.keys after) := by
  induction before generalizing fields with
  | nil =>
      cases survive
      rfl
  | cons entry rest ih =>
      rcases entry with ⟨key, child⟩
      rw [Keyed.keys_cons, List.filter_cons]
      cases isAfter : Keyed.find? key after with
      | some other =>
          rcases (survivors?_cons_eq_some_iff isAfter).mp survive with
            ⟨json, later, -, laterSurvive, rfl⟩
          have member :=
            Keyed.mem_keys_of_mem (Keyed.mem_of_find?_eq_some isAfter)
          simp [member, ih laterSurvive]
      | none =>
          rw [survivors?_cons_of_none isAfter] at survive
          have absent := Keyed.find?_eq_none_iff.mp isAfter
          simp [absent, ih survive]

/-- A child that both documents have is what its own changes make of it. -/
theorem find?_survivors?
    {before after : List (String × Document)}
    {fields : List (String × Json)}
    (survive : survivors? before after = some fields)
    {key : String}
    {child other : Document}
    (isBefore : Keyed.find? key before = some child)
    (isAfter : Keyed.find? key after = some other) :
    ∃ json, Keyed.find? key fields = some json
      ∧ run? (child.changes other) child.toJson = some json := by
  induction before generalizing fields with
  | nil => cases isBefore
  | cons entry rest ih =>
      rcases entry with ⟨name, first⟩
      by_cases same : name = key
      · subst same
        rw [Keyed.find?_cons_self] at isBefore
        cases isBefore
        rcases (survivors?_cons_eq_some_iff isAfter).mp survive with
          ⟨json, later, ran, -, rfl⟩
        exact ⟨json, Keyed.find?_cons_self name json later, ran⟩
      · rw [Keyed.find?_cons_of_ne first rest same] at isBefore
        cases nameAfter : Keyed.find? name after with
        | none =>
            rw [survivors?_cons_of_none nameAfter] at survive
            exact ih survive isBefore
        | some inner =>
            rcases (survivors?_cons_eq_some_iff nameAfter).mp survive with
              ⟨json, later, -, laterSurvive, rfl⟩
            rw [Keyed.find?_cons_of_ne json later same]
            exact ih laterSurvive isBefore

theorem isSome_survivors?_iff
    {before after : List (String × Document)} :
    (survivors? before after).isSome ↔
      ∀ key child other, (key, child) ∈ before →
        Keyed.find? key after = some other →
          (run? (child.changes other) child.toJson).isSome := by
  induction before with
  | nil => simp [survivors?]
  | cons entry rest ih =>
      rcases entry with ⟨name, first⟩
      have head :
          (survivors? ((name, first) :: rest) after).isSome ↔
            (∀ other, Keyed.find? name after = some other →
              (run? (first.changes other) first.toJson).isSome)
                ∧ (survivors? rest after).isSome := by
        rw [survivors?]
        cases Keyed.find? name after with
        | none => simp
        | some other =>
            cases ran : run? (first.changes other) first.toJson <;> simp [ran]
      rw [head, ih]
      constructor
      · rintro ⟨isSome, later⟩ key child other member isAfter
        rcases List.mem_cons.mp member with equal | member
        · cases equal
          exact isSome other isAfter
        · exact later key child other member isAfter
      · intro all
        exact
          ⟨fun other => all name first other List.mem_cons_self,
            fun key child other member =>
              all key child other (List.mem_cons_of_mem _ member)⟩

/-! ## Children that are only there after -/

theorem additions_eq_flatMap_newcomers
    (before after : List (String × Document)) :
    additions before after =
      (newcomers before after).flatMap fun entry =>
        (onLeaves .add entry.2).map (under entry.1) := by
  induction after with
  | nil => rfl
  | cons entry rest ih =>
      rw [additions, List.flatMap_cons, ← additions, ih]
      simp only [newcomers, List.filter_cons]
      by_cases present : Keyed.contains entry.1 before = true
      · simp [present]
      · simp [present]

theorem keys_newcomers (before after : List (String × Document)) :
    Keyed.keys (newcomers before after) =
      (Keyed.keys after).filter (fun key => key ∉ Keyed.keys before) := by
  have isNew (key : String) :
      (!Keyed.contains key before) =
        decide (key ∉ Keyed.keys before) := by
    rw [Bool.eq_iff_iff, Bool.not_eq_true', decide_eq_true_eq,
      ← Keyed.contains_iff, Bool.not_eq_true]
  have filtered :=
    @List.filter_map _ _ Prod.fst
      (fun key => decide (key ∉ Keyed.keys before)) after
  simp only [newcomers, isNew]
  exact filtered.symm

theorem find?_newcomers
    {before after : List (String × Document)}
    {key : String}
    (absent : Keyed.find? key before = none) :
    Keyed.find? key (newcomers before after) = Keyed.find? key after := by
  induction after with
  | nil => rfl
  | cons entry rest ih =>
      rcases entry with ⟨name, first⟩
      rw [newcomers, List.filter_cons, ← newcomers]
      by_cases same : name = key
      · subst same
        simp [Keyed.contains, absent]
      · rw [Keyed.find?_cons_of_ne first rest same, ← ih]
        by_cases present : Keyed.contains name before = true
        · simp [present]
        · simp [present, Keyed.find?_cons_of_ne first _ same]

theorem run?_addition
    {kind : CollectionKind}
    {fields : List (String × Json)}
    {key : String}
    {value : Scalar}
    (wellKeyed :
      WellKeyed kind (Keyed.keys (fields ++ [(key, value.toJson)]))) :
    run? ((onLeaves .add (scalar value)).map (under key))
        (ofFields kind fields) =
      some (ofFields kind (fields ++ [(key, value.toJson)])) := by
  have added := addChild?_ofFields wellKeyed
  simp [onLeaves, leaves, ofLeaf, under, run?_cons, applyTo?, edit,
    Edit.applyAt?, Edit.atChild?, added]

/-- Scalars are appended one after the other. -/
theorem run?_additions
    {kind : CollectionKind}
    {entries : List (String × Document)}
    {fields : List (String × Json)}
    (scalars : ∀ key child, (key, child) ∈ entries →
      ∃ value, child = scalar value)
    (wellKeyed :
      WellKeyed kind (Keyed.keys (fields ++ toJsonFields entries))) :
    run?
        (entries.flatMap fun entry =>
          (onLeaves .add entry.2).map (under entry.1))
        (ofFields kind fields) =
      some (ofFields kind (fields ++ toJsonFields entries)) := by
  induction entries generalizing fields with
  | nil => simp [toJsonFields]
  | cons entry rest ih =>
      rcases entry with ⟨key, child⟩
      rcases scalars key child List.mem_cons_self with ⟨value, rfl⟩
      have split :
          fields ++ toJsonFields ((key, scalar value) :: rest) =
            (fields ++ [(key, value.toJson)]) ++ toJsonFields rest := by
        simp [toJsonFields, toJson]
      rw [split] at wellKeyed ⊢
      have now : WellKeyed kind (Keyed.keys (fields ++ [(key, value.toJson)])) := by
        rw [Keyed.keys_append] at wellKeyed
        exact wellKeyed.left
      rw [List.flatMap_cons, run?_append, run?_addition now, Option.bind_some]
      exact
        ih
          (fun name inner member =>
            scalars name inner (List.mem_cons_of_mem _ member))
          wellKeyed

/-! ## The whole container -/

/-- What the changes leave has the keys of the second container. -/
theorem keys_survivors?_append_newcomers
    {before after : List (String × Document)}
    {fields : List (String × Json)}
    (survive : survivors? before after = some fields) :
    Keyed.keys (fields ++ toJsonFields (newcomers before after)) =
      mergedKeys (Keyed.keys before) (Keyed.keys after) := by
  rw [Keyed.keys_append, keys_toJsonFields, keys_survivors? survive,
    keys_newcomers, mergedKeys]

/-- Unless an array loses two items, its children are changed one by one. -/
theorem run?_changes_collection
    {kind : CollectionKind}
    {before after : List (String × Document)}
    (aligned : Aligned (collection kind before) (collection kind after))
    (short : kind = .sequence → before.length ≤ after.length + 1) :
    run? ((collection kind before).changes (collection kind after))
        (collection kind before).toJson =
      (survivors? before after).map fun fields =>
        ofFields kind (fields ++ toJsonFields (newcomers before after)) := by
  have lastOnly :
      kind = .sequence →
        ∀ entry ∈ before.dropLast, Keyed.find? entry.1 after ≠ none := by
    rintro rfl entry member absent
    have isPrefix :=
      aligned.wellKeyed.dropLast_prefix aligned.symm.wellKeyed
        (by simpa using short rfl)
    apply Keyed.find?_eq_none_iff.mp absent
    apply isPrefix.subset
    rw [Keyed.keys, ← List.map_dropLast]
    exact List.mem_map_of_mem member
  have shared :=
    @run?_changesWithin _ _ before _ [] aligned (List.Subset.refl before)
      (by simpa using aligned.wellKeyed) lastOnly
  rw [List.nil_append] at shared
  rw [changes, run?_append, toJson_collection, shared]
  cases survive : survivors? before after with
  | none => rfl
  | some fields =>
      rw [Option.map_some, Option.bind_some, Option.map_some,
        List.nil_append, additions_eq_flatMap_newcomers]
      apply run?_additions
      · intro key child member
        rcases List.mem_filter.mp member with ⟨isAfter, isNew⟩
        have absent : Keyed.find? key before = none := by
          simpa [Keyed.contains] using isNew
        exact
          aligned.symm.eq_scalar (aligned.symm.find?_eq_some isAfter) absent
      · rw [keys_survivors?_append_newcomers survive]
        exact
          wellKeyed_mergedKeys aligned.wellKeyed aligned.symm.wellKeyed
            aligned.nodup_keys aligned.symm.nodup_keys

/-! ## Arrays that lose two items -/

/-- The change is below the root, and does not add a child of the root. -/
def KeepsLength (change : Change) : Prop :=
  ∃ key keys, change.keys = key :: keys
    ∧ (keys = [] → change.action ≠ .add)

/-- Without additions of items an array grows no longer. -/
theorem run?_array
    {changes : List Change}
    (keepLength : ∀ change ∈ changes, KeepsLength change)
    {items : List Json}
    {json : Json}
    (done : run? changes (.array items) = some json) :
    ∃ others, json = .array others ∧ others.length ≤ items.length := by
  induction changes generalizing items with
  | nil =>
      cases done
      exact ⟨items, rfl, Nat.le_refl _⟩
  | cons first rest ih =>
      rw [run?_cons, Option.bind_eq_some_iff] at done
      rcases done with ⟨next, isNext, done⟩
      rcases keepLength first List.mem_cons_self with
        ⟨key, keys, isPlace, noAddition⟩
      rw [applyTo?, isPlace] at isNext
      have noAdditionOfItem :
          keys = [] → ∀ value, first.edit ≠ .add value := by
        intro atItem value isAddition
        exact noAddition atItem (action_eq_add_of_edit_eq_add isAddition)
      rcases Edit.applyAt?_array noAdditionOfItem isNext with
        ⟨others, rfl, shorter⟩
      rcases
          ih (fun change member =>
            keepLength change (List.mem_cons_of_mem _ member)) done with
        ⟨final, rfl, evenShorter⟩
      exact ⟨final, rfl, Nat.le_trans evenShorter shorter⟩

/-- Changes to children that are there before add no items. -/
theorem keepsLength_of_mem_changesWithin
    {kind otherKind : CollectionKind}
    {before front after : List (String × Document)}
    (aligned :
      Aligned (collection kind before) (collection otherKind after))
    (within : front ⊆ before)
    {change : Change}
    (member : change ∈ changesWithin front after) :
    KeepsLength change := by
  rw [changesWithin_eq_flatMap, List.mem_flatMap] at member
  rcases member with ⟨⟨key, child⟩, isFront, mapped⟩
  rcases List.mem_map.mp mapped with ⟨inner, isInner, rfl⟩
  refine ⟨key, inner.keys, rfl, ?_⟩
  intro atChild
  rw [action_under]
  have isBefore := aligned.find?_eq_some (within isFront)
  cases isAfter : Keyed.find? key after with
  | some other =>
      rw [isAfter] at isInner
      rw [(aligned.descend isBefore isAfter).inPlace inner isInner atChild]
      exact Action.noConfusion
  | none =>
      rw [isAfter, changesBetween, onLeaves] at isInner
      rcases List.mem_map.mp isInner with ⟨leaf, -, rfl⟩
      exact Action.noConfusion

theorem run?_removal_array
    {key : String}
    {value : Scalar}
    {items : List Json}
    {json : Json}
    (done :
      run? ((onLeaves .remove (scalar value)).map (under key))
        (.array items) = some json) :
    ∃ index others, index? key = some index ∧ index < items.length
      ∧ json = .array others ∧ others.length + 1 = items.length := by
  rw [onLeaves, leaves, List.map_singleton, List.map_singleton,
    run?_singleton] at done
  exact removeChild?_array done

theorem changesWithin_append
    (front rest after : List (String × Document)) :
    changesWithin (front ++ rest) after =
      changesWithin front after ++ changesWithin rest after := by
  rw [changesWithin_eq_flatMap, changesWithin_eq_flatMap,
    changesWithin_eq_flatMap, List.flatMap_append]

theorem exists_eq_append_pair
    {entries : List (String × Document)}
    (long : 1 < entries.length) :
    ∃ front second last, entries = front ++ [second, last] := by
  have two : (entries.drop (entries.length - 2)).length = 2 := by
    rw [List.length_drop]
    omega
  have split := List.take_append_drop (entries.length - 2) entries
  rw [List.eq_getElem_of_length_eq_two _ two] at split
  exact ⟨_, _, _, split.symm⟩

section Tail

variable
    {front tail after : List (String × Document)}
    (aligned :
      Aligned (collection .sequence (front ++ tail))
        (collection .sequence after))

include aligned

/-- Items beyond the number of those of the second array are not in it. -/
theorem find?_eq_none_of_mem_tail
    (short : after.length ≤ front.length)
    {key : String}
    {child : Document}
    (member : (key, child) ∈ tail) :
    Keyed.find? key after = none := by
  have wellKeyed := aligned.wellKeyed
  have distinct := aligned.nodup_keys
  rw [Keyed.keys_append] at wellKeyed distinct
  have isPrefix : Keyed.keys after <+: Keyed.keys front := by
    rcases wellKeyed.prefix_or_prefix aligned.symm.wellKeyed with
      isPrefix | isPrefix
    · have afterPrefix := (List.prefix_append _ _).trans isPrefix
      have length := isPrefix.length_le
      simp only [List.length_append, Keyed.length_keys] at length
      have equal :=
        afterPrefix.eq_of_length_le (by simpa using short)
      exact equal ▸ List.prefix_rfl
    · apply
        List.prefix_of_prefix_length_le isPrefix (List.prefix_append _ _)
      simpa using short
  rw [Keyed.find?_eq_none_iff]
  intro isAfter
  exact
    (List.nodup_append.mp distinct).2.2 key (isPrefix.subset isAfter)
      key (Keyed.mem_keys_of_mem member) rfl

theorem eq_scalar_of_mem_tail
    (short : after.length ≤ front.length)
    {key : String}
    {child : Document}
    (member : (key, child) ∈ tail) :
    ∃ value, child = scalar value :=
  aligned.eq_scalar
    (aligned.find?_eq_some (List.mem_append_right front member))
    (find?_eq_none_of_mem_tail aligned short member)

/-- Up to its tail an array does not grow. -/
theorem run?_front_array
    {json : Json}
    (ran :
      run? (changesWithin front after)
        (collection .sequence (front ++ tail)).toJson = some json) :
    ∃ items, json = .array items
      ∧ items.length ≤ front.length + tail.length := by
  rw [toJson_collection, ofFields] at ran
  rcases
      run?_array
        (fun change =>
          keepsLength_of_mem_changesWithin aligned
            (List.subset_append_left front tail))
        ran with
    ⟨items, rfl, notLonger⟩
  refine ⟨items, rfl, ?_⟩
  simpa [toJsonFields_eq_map] using notLonger

end Tail

/-- The removal of the last item comes too late: its place is beyond the end. -/
theorem run?_changes_sequence_eq_none
    {before after : List (String × Document)}
    (aligned :
      Aligned (collection .sequence before) (collection .sequence after))
    (long : after.length + 1 < before.length) :
    run? ((collection .sequence before).changes (collection .sequence after))
        (collection .sequence before).toJson =
      none := by
  rcases exists_eq_append_pair (Nat.lt_of_le_of_lt (by omega) long) with
    ⟨front, ⟨secondKey, second⟩, ⟨lastKey, last⟩, rfl⟩
  have short : after.length ≤ front.length := by
    simp only [List.length_append, List.length_cons, List.length_nil] at long
    omega
  have isSecond :
      (secondKey, second) ∈ [(secondKey, second), (lastKey, last)] :=
    List.mem_cons_self
  have isLast : (lastKey, last) ∈ [(secondKey, second), (lastKey, last)] :=
    List.mem_cons_of_mem _ List.mem_cons_self
  have secondAbsent := find?_eq_none_of_mem_tail aligned short isSecond
  have lastAbsent := find?_eq_none_of_mem_tail aligned short isLast
  rcases eq_scalar_of_mem_tail aligned short isSecond with ⟨secondValue, rfl⟩
  rcases eq_scalar_of_mem_tail aligned short isLast with ⟨lastValue, rfl⟩
  have place : index? lastKey = some (front.length + 1) := by
    have wellKeyed := aligned.wellKeyed
    rw [Keyed.keys_append, Keyed.keys_cons, List.append_cons] at wellKeyed
    simpa using wellKeyed.index?_eq
  rw [Option.eq_none_iff_forall_ne_some]
  intro json ran
  rw [changes, run?_append, changesWithin_append, run?_append] at ran
  rcases Option.bind_eq_some_iff.mp ran with ⟨removed, ran, -⟩
  rcases Option.bind_eq_some_iff.mp ran with ⟨shared, ranFront, ran⟩
  rcases run?_front_array aligned ranFront with ⟨items, rfl, notLonger⟩
  simp only [changesWithin, secondAbsent, lastAbsent, List.append_nil,
    run?_append] at ran
  rcases Option.bind_eq_some_iff.mp ran with ⟨oneLess, ranSecond, ranLast⟩
  rcases run?_removal_array ranSecond with ⟨-, others, -, -, rfl, length⟩
  rcases run?_removal_array ranLast with ⟨index, -, isIndex, inside, -, -⟩
  rw [place] at isIndex
  cases isIndex
  simp only [List.length_cons, List.length_nil] at notLonger
  omega

end LeafPatch.Document
