import LeafPatch.Proofs.Patch.Exactness
import LeafPatch.Proofs.Patch.LeafStore

/-!
# Soundness of patches on stores of leaves

A patch is applied, operation by operation, to the store of the leaves of its
source.  Each operation finds the store as it takes it to be, so the store stays
prefix-free throughout.  In the end it holds the leaves of the target at all
places that are not blocked, those of the source at all others, and nothing
else.

The one point at which the order of the operations matters is an addition above
or below a leaf of the source: that leaf is then to be removed, and of two
changes on one way the removal comes first.

Places are told apart by their pointers.  In the raw style this needs that no
key of either document has a slash.
-/

namespace LeafPatch

namespace Change

/-- What a change leaves at its place. -/
def result (change : Change) : Option Scalar :=
  match change.action with
  | .remove => none
  | _ => some change.value

theorem result_locate
    (style : Pointer.Style)
    (pointer : String)
    (change : Change) :
    (change.locate style pointer).result = change.result := by
  rcases change with ⟨action, keys, value⟩
  cases action <;> rfl

/-- A change leaves what is wanted at its place. -/
theorem result_of_between?
    {keys : List String}
    {before after : Option Scalar}
    {change : Change}
    (called : between? keys before after = some change) :
    change.result = after := by
  have leaves := leaves_of_between? called
  rcases change with ⟨action, place, value⟩
  cases action with
  | add => exact leaves.2.symm
  | remove => exact leaves.2.symm
  | replace =>
      rcases leaves with ⟨old, -, isNew, -⟩
      exact isNew.symm

/-- No change is called for exactly where the leaves agree. -/
theorem between?_eq_none_iff
    {keys : List String}
    {before after : Option Scalar} :
    between? keys before after = none ↔ Scalar.SameLeaf before after := by
  cases before with
  | none => cases after <;> simp [between?, Scalar.SameLeaf]
  | some old =>
      cases after with
      | none => simp [between?, Scalar.SameLeaf]
      | some new =>
          by_cases same : old.sameValue new = true <;>
            simp [between?, Scalar.SameLeaf, same]

end Change

namespace Document

/-- All keys of the document can be told apart in pointers. -/
def LegibleKeys (style : Pointer.Style) (document : Document) : Prop :=
  ∀ keys, (document.follow? keys).isSome →
    ∀ key ∈ keys, Pointer.Legible style key

theorem legibleKeys_escaped (document : Document) :
    document.LegibleKeys .escaped :=
  fun _ _ key _ => Pointer.legible_escaped key

theorem LegibleKeys.of_scalarAt?
    {style : Pointer.Style}
    {document : Document}
    (legible : document.LegibleKeys style)
    {keys : List String}
    {value : Scalar}
    (found : document.scalarAt? keys = some value) :
    ∀ key ∈ keys, Pointer.Legible style key :=
  legible keys (by simp [scalarAt?_eq_some_iff.mp found])

theorem legible_of_mem_changes
    {style : Pointer.Style}
    {source target : Document}
    (distinctSource : source.DistinctKeys)
    (distinctTarget : target.DistinctKeys)
    (legibleSource : source.LegibleKeys style)
    (legibleTarget : target.LegibleKeys style)
    {change : Change}
    (found : change ∈ source.changes target) :
    ∀ key ∈ change.keys, Pointer.Legible style key := by
  rcases (mem_changes_iff distinctSource distinctTarget).mp found with
    ⟨-, called⟩
  cases before : source.scalarAt? change.keys with
  | some old => exact legibleSource.of_scalarAt? before
  | none =>
      cases after : target.scalarAt? change.keys with
      | some new => exact legibleTarget.of_scalarAt? after
      | none =>
          rw [before, after] at called
          cases called

/--
A leaf of the source on the way to, or below, one that the target has is
removed.
-/
theorem removal_mem_changes
    {source target : Document}
    (distinctSource : source.DistinctKeys)
    (distinctTarget : target.DistinctKeys)
    {keys others : List String}
    {old new : Scalar}
    (free : ¬ Blocked source target keys)
    (isNew : target.scalarAt? keys = some new)
    (isOld : source.scalarAt? others = some old)
    (comparable : Comparable keys others)
    (different : keys ≠ others) :
    ⟨.remove, others, old⟩ ∈ source.changes target := by
  have absent : target.scalarAt? others = none := by
    rw [Option.eq_none_iff_forall_ne_some]
    intro other found
    exact different (scalarAt?_prefixFree isNew found comparable)
  have othersFree : ¬ Blocked source target others := by
    rintro ⟨stop, above, clash⟩
    -- the place where the documents clash would lie above the new leaf, or at it
    have stopAbove : stop <+: keys := by
      rcases comparable with keysAbove | keysBelow
      · rcases List.prefix_or_prefix_of_prefix above keysAbove with
          stopAbove | stopBelow
        · exact stopAbove
        · rcases clash with ⟨-, after, -, isAfter, -⟩
          have same : keys = stop :=
            eq_of_prefix_of_follow? stopBelow
              (scalarAt?_eq_some_iff.mp isNew) rfl (by simp [isAfter])
          exact same ▸ List.prefix_rfl
      · exact above.trans keysBelow
    exact free ⟨stop, stopAbove, clash⟩
  rw [mem_changes_iff distinctSource distinctTarget]
  refine ⟨othersFree, ?_⟩
  rw [isOld, absent]
  rfl

end Document

namespace LeafStore

open Document

/-! ## The store of a document -/

theorem mem_entries_iff
    {style : Pointer.Style}
    {pointer other : String}
    {document : Document}
    (distinct : document.DistinctKeys)
    {value : Scalar} :
    (other, value) ∈
        document.leaves.map (fun leaf =>
          (Pointer.descend style pointer leaf.1, leaf.2)) ↔
      ∃ keys, document.scalarAt? keys = some value
        ∧ other = Pointer.descend style pointer keys := by
  rw [List.mem_map]
  constructor
  · rintro ⟨⟨keys, inner⟩, leaf, equal⟩
    cases equal
    exact ⟨keys, (mem_leaves_iff distinct).mp leaf, rfl⟩
  · rintro ⟨keys, found, rfl⟩
    exact ⟨(keys, value), (mem_leaves_iff distinct).mpr found, rfl⟩

/-- Under the pointer of a place the store has the leaf of that place. -/
theorem ofDocument_descend
    {style : Pointer.Style}
    {pointer : String}
    {document : Document}
    (distinct : document.DistinctKeys)
    (legible : document.LegibleKeys style)
    {keys : List String}
    (keysLegible : ∀ key ∈ keys, Pointer.Legible style key) :
    ofDocument style pointer document (Pointer.descend style pointer keys) =
      document.scalarAt? keys := by
  have nodup :
      (Keyed.keys
        (document.leaves.map fun leaf =>
          (Pointer.descend style pointer leaf.1, leaf.2))).Nodup := by
    rw [Keyed.keys, List.map_map, List.nodup_iff_pairwise_ne,
      List.pairwise_map]
    refine (leaves_pairwise distinct).imp_of_mem ?_
    intro left right isLeft isRight apart same
    have sameKeys :=
      Pointer.descend_inj
        (legible.of_scalarAt? ((mem_leaves_iff distinct).mp isLeft))
        (legible.of_scalarAt? ((mem_leaves_iff distinct).mp isRight))
        same
    exact apart (Or.inl (sameKeys ▸ List.prefix_rfl))
  apply Option.ext
  intro value
  rw [ofDocument, Keyed.find?_eq_some_iff nodup, mem_entries_iff distinct]
  constructor
  · rintro ⟨others, found, same⟩
    rw [Pointer.descend_inj keysLegible (legible.of_scalarAt? found) same]
    exact found
  · intro found
    exact ⟨keys, found, rfl⟩

theorem exists_of_isSome_ofDocument
    {style : Pointer.Style}
    {pointer other : String}
    {document : Document}
    (distinct : document.DistinctKeys)
    (stored : (ofDocument style pointer document other).isSome) :
    ∃ keys value, document.scalarAt? keys = some value
      ∧ other = Pointer.descend style pointer keys := by
  rcases Option.isSome_iff_exists.mp stored with ⟨value, found⟩
  rcases (mem_entries_iff distinct).mp (Keyed.mem_of_find?_eq_some found) with
    ⟨keys, isLeaf, same⟩
  exact ⟨keys, value, isLeaf, same⟩

theorem prefixFree_ofDocument
    {style : Pointer.Style}
    {pointer : String}
    {document : Document}
    (distinct : document.DistinctKeys)
    (legible : document.LegibleKeys style) :
    (ofDocument style pointer document).PrefixFree := by
  intro upper lower upperStored lowerStored above
  rcases exists_of_isSome_ofDocument distinct upperStored with
    ⟨keys, value, found, rfl⟩
  rcases exists_of_isSome_ofDocument distinct lowerStored with
    ⟨others, other, otherFound, rfl⟩
  rcases
      Pointer.prefix_of_above_descend (legible.of_scalarAt? found)
        (legible.of_scalarAt? otherFound) above with
    ⟨isPrefix, different⟩
  exact different (scalarAt?_prefixFree found otherFound (Or.inl isPrefix))

/-! ## Running the changes between two documents -/

section Run

variable
    {style : Pointer.Style}
    {pointer : String}
    {source target : Document}
    (distinctSource : source.DistinctKeys)
    (distinctTarget : target.DistinctKeys)
    (legibleSource : source.LegibleKeys style)
    (legibleTarget : target.LegibleKeys style)

include distinctSource distinctTarget legibleSource legibleTarget

/-- A place that no change so far is about has the leaf of the source. -/
theorem run_changes_of_not_mem
    {done rest : List Change}
    (split : source.changes target = done ++ rest)
    {keys : List String}
    (keysLegible : ∀ key ∈ keys, Pointer.Legible style key)
    (untouched : ∀ change ∈ done, change.keys ≠ keys) :
    (ofDocument style pointer source).run
        (done.map (Change.locate style pointer))
        (Pointer.descend style pointer keys) =
      source.scalarAt? keys := by
  rw [run_of_forall_ne,
    ofDocument_descend distinctSource legibleSource keysLegible]
  intro operation member same
  rcases List.mem_map.mp member with ⟨change, isDone, rfl⟩
  have changeLegible :=
    legible_of_mem_changes distinctSource distinctTarget legibleSource
      legibleTarget (split ▸ List.mem_append_left rest isDone)
  exact
    untouched change isDone
      (Pointer.descend_inj keysLegible changeLegible same).symm

/-- The place of a change that is done has the leaf of the target. -/
theorem run_changes_of_mem
    {done rest : List Change}
    (split : source.changes target = done ++ rest)
    {change : Change}
    (isDone : change ∈ done) :
    (ofDocument style pointer source).run
        (done.map (Change.locate style pointer))
        (Pointer.descend style pointer change.keys) =
      target.scalarAt? change.keys := by
  have legible (other : Change) (otherDone : other ∈ done) :=
    legible_of_mem_changes distinctSource distinctTarget legibleSource
      legibleTarget (split ▸ List.mem_append_left rest otherDone)
  have nodup : (done.map Change.keys).Nodup := by
    have all := nodup_keys_changes distinctSource distinctTarget
    rw [split, List.map_append, List.nodup_append] at all
    exact all.1
  rcases
      (mem_changes_iff distinctSource distinctTarget).mp
        (split ▸ List.mem_append_left rest isDone) with
    ⟨-, called⟩
  rw [← Change.result_of_between? called, ← Change.result_locate style pointer]
  rcases List.append_of_mem isDone with ⟨before, after, rfl⟩
  rw [List.map_append, List.map_cons]
  apply run_of_mem
  intro operation member same
  rcases List.mem_map.mp member with ⟨later, isLater, rfl⟩
  have sameKeys :=
    Pointer.descend_inj (legible change isDone)
      (legible later
        (List.mem_append_right _ (List.mem_cons_of_mem _ isLater)))
      same
  rw [List.map_append, List.map_cons, List.nodup_append] at nodup
  exact
    (List.nodup_cons.mp nodup.2.1).1
      (List.mem_map.mpr ⟨later, isLater, sameKeys.symm⟩)

/-- Nothing but places of the two documents is ever stored. -/
theorem exists_place_of_isSome_run
    {done rest : List Change}
    (split : source.changes target = done ++ rest)
    {other : String}
    (stored :
      ((ofDocument style pointer source).run
        (done.map (Change.locate style pointer)) other).isSome) :
    ∃ keys, (∀ key ∈ keys, Pointer.Legible style key)
      ∧ other = Pointer.descend style pointer keys := by
  rcases isSome_run stored with atStart | ⟨operation, member, rfl⟩
  · rcases exists_of_isSome_ofDocument distinctSource atStart with
      ⟨keys, value, found, rfl⟩
    exact ⟨keys, legibleSource.of_scalarAt? found, rfl⟩
  · rcases List.mem_map.mp member with ⟨change, isDone, rfl⟩
    exact
      ⟨change.keys,
        legible_of_mem_changes distinctSource distinctTarget legibleSource
          legibleTarget (split ▸ List.mem_append_left rest isDone),
        rfl⟩

/--
When an addition is next, nothing is stored on the way to its place or below it.
-/
theorem run_changes_eq_none_of_comparable
    {done rest : List Change}
    {change : Change}
    (split : source.changes target = done ++ change :: rest)
    (isAddition : change.action = .add)
    (isNew : target.scalarAt? change.keys = some change.value)
    {keys : List String}
    (keysLegible : ∀ key ∈ keys, Pointer.Legible style key)
    (comparable : Comparable change.keys keys)
    (different : change.keys ≠ keys) :
    (ofDocument style pointer source).run
        (done.map (Change.locate style pointer))
        (Pointer.descend style pointer keys) =
      none := by
  by_cases touched : ∃ earlier ∈ done, earlier.keys = keys
  · rcases touched with ⟨earlier, isEarlier, rfl⟩
    rw [run_changes_of_mem distinctSource distinctTarget legibleSource
        legibleTarget split isEarlier,
      Option.eq_none_iff_forall_ne_some]
    intro other found
    exact different (scalarAt?_prefixFree isNew found comparable)
  · have untouched : ∀ earlier ∈ done, earlier.keys ≠ keys :=
      fun earlier isEarlier same => touched ⟨earlier, isEarlier, same⟩
    rw [run_changes_of_not_mem distinctSource distinctTarget legibleSource
        legibleTarget split keysLegible untouched,
      Option.eq_none_iff_forall_ne_some]
    intro old isOld
    have member : change ∈ source.changes target := by simp [split]
    rcases (mem_changes_iff distinctSource distinctTarget).mp member with
      ⟨free, -⟩
    -- the leaf of the source is to be removed, and not after the addition
    have removal :=
      removal_mem_changes distinctSource distinctTarget free isNew isOld
        comparable different
    have ordered := changes_pairwise distinctSource distinctTarget
    rw [split] at removal ordered
    rcases List.mem_append.mp removal with isDone | isNext
    · exact untouched _ isDone rfl
    · rcases List.mem_cons.mp isNext with same | later
      · exact different (congrArg Change.keys same).symm
      · have afterAddition :=
          (List.pairwise_cons.mp (List.pairwise_append.mp ordered).2.1).1
        rcases afterAddition _ later comparable with ⟨isRemoval, -⟩
        rw [isAddition] at isRemoval
        cases isRemoval

/-- Each change finds the store as it takes it to be. -/
theorem admits_run_changes
    {done rest : List Change}
    {change : Change}
    (split : source.changes target = done ++ change :: rest) :
    ((ofDocument style pointer source).run
        (done.map (Change.locate style pointer))).Admits
      (change.locate style pointer) := by
  have member : change ∈ source.changes target := by simp [split]
  have legible :=
    legible_of_mem_changes distinctSource distinctTarget legibleSource
      legibleTarget member
  rcases (mem_changes_iff distinctSource distinctTarget).mp member with
    ⟨-, called⟩
  have untouched : ∀ earlier ∈ done, earlier.keys ≠ change.keys := by
    have nodup := nodup_keys_changes distinctSource distinctTarget
    rw [split, List.map_append, List.nodup_append] at nodup
    intro earlier isEarlier
    exact
      nodup.2.2 _ (List.mem_map.mpr ⟨earlier, isEarlier, rfl⟩) _
        (List.mem_map.mpr ⟨change, List.mem_cons_self, rfl⟩)
  have current :
      (ofDocument style pointer source).run
          (done.map (Change.locate style pointer))
          (Pointer.descend style pointer change.keys) =
        source.scalarAt? change.keys :=
    run_changes_of_not_mem distinctSource distinctTarget legibleSource
      legibleTarget split legible untouched
  have leaves := Change.leaves_of_between? called
  refine ⟨change.value, rfl, ?_⟩
  cases action : change.action with
  | add =>
      simp only [action] at leaves
      rcases leaves with ⟨isOld, isNew⟩
      simp only [Change.locate, action]
      refine ⟨current.trans isOld, ?_⟩
      intro other stored
      rcases
          exists_place_of_isSome_run distinctSource distinctTarget legibleSource
            legibleTarget split stored with
        ⟨keys, keysLegible, rfl⟩
      rw [← Option.ne_none_iff_isSome] at stored
      constructor
      · intro above
        rcases Pointer.prefix_of_above_descend keysLegible legible above with
          ⟨isPrefix, different⟩
        exact
          stored
            (run_changes_eq_none_of_comparable distinctSource distinctTarget
              legibleSource legibleTarget split action isNew keysLegible
              (Or.inr isPrefix) different.symm)
      · intro above
        rcases Pointer.prefix_of_above_descend legible keysLegible above with
          ⟨isPrefix, different⟩
        exact
          stored
            (run_changes_eq_none_of_comparable distinctSource distinctTarget
              legibleSource legibleTarget split action isNew keysLegible
              (Or.inl isPrefix) different)
  | remove =>
      simp only [action] at leaves
      simp only [Change.locate, action]
      exact current.trans leaves.1
  | replace =>
      simp only [action] at leaves
      rcases leaves with ⟨old, isOld, -, different⟩
      simp only [Change.locate, action]
      exact ⟨old, current.trans isOld, different⟩

/-- At a place that is not blocked, the run ends with the leaf of the target. -/
theorem sameLeaf_run_changes
    {keys : List String}
    (keysLegible : ∀ key ∈ keys, Pointer.Legible style key)
    (free : ¬ Blocked source target keys) :
    Scalar.SameLeaf
      ((ofDocument style pointer source).run
        ((source.changes target).map (Change.locate style pointer))
        (Pointer.descend style pointer keys))
      (target.scalarAt? keys) := by
  have split : source.changes target = source.changes target ++ [] := by simp
  by_cases touched : ∃ change ∈ source.changes target, change.keys = keys
  · rcases touched with ⟨change, isDone, rfl⟩
    rw [run_changes_of_mem distinctSource distinctTarget legibleSource
      legibleTarget split isDone]
    cases target.scalarAt? change.keys with
    | none => trivial
    | some value => exact value.sameValue_refl
  · rw [run_changes_of_not_mem distinctSource distinctTarget legibleSource
      legibleTarget split keysLegible
      fun change isDone same => touched ⟨change, isDone, same⟩]
    cases called :
        Change.between? keys
          (source.scalarAt? keys) (target.scalarAt? keys) with
    | none => exact Change.between?_eq_none_iff.mp called
    | some change =>
        have sameKeys := Change.keys_of_between?_eq_some called
        refine absurd ⟨change, ?_, sameKeys⟩ touched
        rw [mem_changes_iff distinctSource distinctTarget, sameKeys]
        exact ⟨free, called⟩

end Run

end LeafStore

namespace Document

/--
The operations of a patch are applied, in their order, to the store of the
leaves of its source.  Each of them finds the store as it takes it to be, and
the store is prefix-free at every moment.  In the end the store has, by value,
the leaf of the target at each place that is not blocked.  At each blocked place
it has the leaf of the source, and it has nothing that is not at a place.
-/
theorem patchTo_sound
    (source target : Document)
    (options : Options)
    (distinctSource : source.DistinctKeys)
    (distinctTarget : target.DistinctKeys)
    (legibleSource : source.LegibleKeys options.pointerStyle)
    (legibleTarget : target.LegibleKeys options.pointerStyle) :
    let operations := (source.patchTo target options).operations
    let start :=
      LeafStore.ofDocument options.pointerStyle options.basePath source
    let place := Pointer.descend options.pointerStyle options.basePath
    (∀ done operation rest, operations = done ++ operation :: rest →
        (start.run done).Admits operation)
      ∧ (∀ done rest, operations = done ++ rest →
          (start.run done).PrefixFree)
      ∧ (∀ keys,
          (∀ key ∈ keys, Pointer.Legible options.pointerStyle key) →
            (¬ Blocked source target keys →
                Scalar.SameLeaf
                  (start.run operations (place keys))
                  (target.scalarAt? keys))
              ∧ (Blocked source target keys →
                start.run operations (place keys) = source.scalarAt? keys))
      ∧ ∀ pointer, (start.run operations pointer).isSome →
          ∃ keys,
            (∀ key ∈ keys, Pointer.Legible options.pointerStyle key)
              ∧ pointer = place keys := by
  intro operations start place
  have located :
      operations =
        (source.changes target).map
          (Change.locate options.pointerStyle options.basePath) :=
    patchTo_operations source target options
  have complete : source.changes target = source.changes target ++ [] := by
    simp
  have admits :
      ∀ done operation rest, operations = done ++ operation :: rest →
        (start.run done).Admits operation := by
    intro done operation rest split
    rw [located, List.map_eq_append_iff] at split
    rcases split with ⟨changes, others, splitChanges, rfl, isNext⟩
    rcases List.map_eq_cons_iff.mp isNext with ⟨change, later, rfl, rfl, -⟩
    exact
      LeafStore.admits_run_changes distinctSource distinctTarget legibleSource
        legibleTarget splitChanges
  refine ⟨admits, ?_, ?_, ?_⟩
  · intro done rest split
    apply
      (LeafStore.prefixFree_ofDocument distinctSource legibleSource).run
    rintro earlier operation others rfl
    exact admits earlier operation (others ++ rest) (by simp [split])
  · intro keys keysLegible
    constructor
    · intro free
      rw [located]
      exact
        LeafStore.sameLeaf_run_changes distinctSource distinctTarget
          legibleSource legibleTarget keysLegible free
    · intro blocked
      rw [located]
      apply
        LeafStore.run_changes_of_not_mem distinctSource distinctTarget
          legibleSource legibleTarget complete keysLegible
      rintro change found rfl
      exact ((mem_changes_iff distinctSource distinctTarget).mp found).1 blocked
  · intro pointer stored
    rw [located] at stored
    exact
      LeafStore.exists_place_of_isSome_run distinctSource distinctTarget
        legibleSource legibleTarget complete stored

/--
An array that gives way to a string: the removal precedes the addition on its
way.
-/
theorem patchTo_sound_shapeChange :
    let before :=
      collection .mapping [("a/b", collection .sequence [("0", ofText "x")])]
    let after := collection .mapping [("a/b", ofText "y")]
    let options : Options := ⟨"/node", .escaped, false⟩
    let start := LeafStore.ofDocument .escaped "/node" before
    before.DistinctKeys ∧ after.DistinctKeys
      ∧ before.LegibleKeys .escaped ∧ after.LegibleKeys .escaped
      ∧ (before.patchTo after options).operations =
          [⟨.remove, "/node/a~1b/0", ofText "x"⟩,
            ⟨.add, "/node/a~1b", ofText "y"⟩]
      ∧ (start.run [⟨.remove, "/node/a~1b/0", ofText "x"⟩]).Admits
          ⟨.add, "/node/a~1b", ofText "y"⟩ := by
  intro before after options start
  have distinctBefore : before.DistinctKeys := by
    simp [before, ofText, DistinctKeys, DistinctKeysWithin, Keyed.keys]
  have distinctAfter : after.DistinctKeys := by
    simp [after, ofText, DistinctKeys, DistinctKeysWithin, Keyed.keys]
  have legible (document : Document) : document.LegibleKeys .escaped := by
    intro keys found key member isRaw
    cases isRaw
  have operations :
      (before.patchTo after options).operations =
        [⟨.remove, "/node/a~1b/0", ofText "x"⟩,
          ⟨.add, "/node/a~1b", ofText "y"⟩] := by
    rfl
  rcases
      patchTo_sound before after options distinctBefore distinctAfter
        (legible before) (legible after) with
    ⟨admits, -⟩
  exact
    ⟨distinctBefore, distinctAfter, legible before, legible after, operations,
      admits [⟨.remove, "/node/a~1b/0", ofText "x"⟩]
        ⟨.add, "/node/a~1b", ofText "y"⟩ [] operations⟩

end Document

end LeafPatch
