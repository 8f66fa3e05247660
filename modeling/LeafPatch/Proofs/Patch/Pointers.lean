import LeafPatch.Proofs.Patch.Exactness
import LeafPatch.Proofs.Pointer.Decoding

/-!
# The pointers of a patch

The style of the pointers changes nothing but how the places of the operations
are written.  Each operation is about a leaf that its keys lead to, in the
source, in the target or in both, and its pointer is the base with these keys
after it.

In the escaped style the keys can be read off the pointer again, whatever
characters they have, and so no two operations have the same pointer.  In the
raw style they can be read off as long as they have no slashes.
-/

namespace LeafPatch

/--
The keys lead to the leaf that an operation is about: a removed leaf stands in
the source, an added one in the target, and a replaced one in both.
-/
def Operation.IsAbout
    (source target : Document)
    (operation : Operation)
    (keys : List String) :
    Prop :=
  ∃ value, operation.value = .scalar value
    ∧ match operation.action with
      | .remove => source.follow? keys = some (.scalar value)
      | .add => target.follow? keys = some (.scalar value)
      | .replace =>
          target.follow? keys = some (.scalar value)
            ∧ ∃ old, source.follow? keys = some (.scalar old)

namespace Document

section Changes

variable
    {source target : Document}
    (distinctSource : source.DistinctKeys)
    (distinctTarget : target.DistinctKeys)

include distinctSource distinctTarget

theorem isAbout_locate
    {change : Change}
    (found : change ∈ source.changes target)
    (style : Pointer.Style)
    (pointer : String) :
    (change.locate style pointer).IsAbout source target change.keys := by
  rcases (mem_changes_iff distinctSource distinctTarget).mp found with
    ⟨-, called⟩
  have leaves := Change.leaves_of_between? called
  rcases change with ⟨action, keys, value⟩
  refine ⟨value, rfl, ?_⟩
  cases action with
  | add => exact scalarAt?_eq_some_iff.mp leaves.2
  | remove => exact scalarAt?_eq_some_iff.mp leaves.1
  | replace =>
      rcases leaves with ⟨old, isOld, isNew, -⟩
      exact
        ⟨scalarAt?_eq_some_iff.mp isNew, old, scalarAt?_eq_some_iff.mp isOld⟩

/-- Escaped pointers tell all changes apart. -/
theorem nodup_escaped_paths (pointer : String) :
    (((source.changes target).map (Change.locate .escaped pointer)).map
      Operation.path).Nodup := by
  have apart := nodup_keys_changes distinctSource distinctTarget
  rw [List.nodup_iff_pairwise_ne, List.pairwise_map] at apart
  rw [List.nodup_iff_pairwise_ne, List.pairwise_map, List.pairwise_map]
  refine apart.imp ?_
  intro earlier later different same
  apply different
  apply Pointer.descend_inj _ _ same
  · exact fun key _ => Pointer.legible_escaped key
  · exact fun key _ => Pointer.legible_escaped key

end Changes

/--
The patches of the two styles have the same status and agree operation by
operation up to the pointers.  Each operation is about a leaf to which some keys
lead, and its pointer is the base followed by these keys, each behind a slash,
as they are in one style and escaped in the other.

Below the base an escaped pointer is read back as its keys, whatever these are,
and no two operations share one.  A raw pointer is read back if no key has a
slash.
-/
theorem patchTo_pointers
    (source target : Document)
    (options : Options)
    (distinctSource : source.DistinctKeys)
    (distinctTarget : target.DistinctKeys) :
    let raw := source.patchTo target (options.withPointerStyle .raw)
    let escaped := source.patchTo target (options.withPointerStyle .escaped)
    let verbatim (keys : List String) :=
      options.basePath ++ String.join (keys.map fun key => "/" ++ key)
    let coded (keys : List String) :=
      options.basePath
        ++ String.join (keys.map fun key => "/" ++ Pointer.escape key)
    raw.status = escaped.status
      ∧ raw.operations.length = escaped.operations.length
      ∧ (∀ (index : Nat) (plain other : Operation),
          raw.operations[index]? = some plain →
            escaped.operations[index]? = some other →
              plain.action = other.action ∧ plain.value = other.value
                ∧ ∃ keys, plain.IsAbout source target keys
                    ∧ plain.path = verbatim keys ∧ other.path = coded keys)
      ∧ (∀ keys,
          Pointer.keysFrom? .escaped options.basePath (coded keys) = some keys)
      ∧ (escaped.operations.map Operation.path).Nodup
      ∧ ∀ keys, (∀ key ∈ keys, '/' ∉ key.toList) →
          Pointer.keysFrom? .raw options.basePath (verbatim keys) =
            some keys := by
  intro raw escaped verbatim coded
  have rawOperations :
      raw.operations =
        (source.changes target).map (Change.locate .raw options.basePath) :=
    patchTo_operations source target (options.withPointerStyle .raw)
  have escapedOperations :
      escaped.operations =
        (source.changes target).map
          (Change.locate .escaped options.basePath) :=
    patchTo_operations source target (options.withPointerStyle .escaped)
  have verbatim_eq (keys : List String) :
      Pointer.descend .raw options.basePath keys = verbatim keys :=
    Pointer.descend_eq_join .raw options.basePath keys
  have coded_eq (keys : List String) :
      Pointer.descend .escaped options.basePath keys = coded keys := by
    rw [Pointer.descend_eq_join]
    simp only [Pointer.segment_escaped, coded]
  refine ⟨rfl, ?_, ?_, ?_, ?_, ?_⟩
  · rw [rawOperations, escapedOperations, List.length_map, List.length_map]
  · intro index plain other isPlain isOther
    rw [rawOperations, List.getElem?_map, Option.map_eq_some_iff] at isPlain
    rw [escapedOperations, List.getElem?_map] at isOther
    rcases isPlain with ⟨change, atIndex, rfl⟩
    rw [atIndex] at isOther
    cases isOther
    exact
      ⟨rfl, rfl, change.keys,
        isAbout_locate distinctSource distinctTarget
          (List.mem_of_getElem? atIndex) _ _,
        verbatim_eq change.keys, coded_eq change.keys⟩
  · intro keys
    rw [← coded_eq]
    exact Pointer.keysFrom?_descend fun key _ => Pointer.legible_escaped key
  · rw [escapedOperations]
    exact nodup_escaped_paths distinctSource distinctTarget options.basePath
  · intro keys noSlash
    rw [← verbatim_eq]
    exact Pointer.keysFrom?_descend fun key member _ => noSlash key member

/--
A key of tildes and slashes, one without characters, and one that looks escaped
already.
-/
theorem patchTo_pointers_oddKeys :
    let before :=
      collection .mapping [("~/", collection .mapping [("", ofText "x")])]
    let after := collection .mapping [("~1", ofText "y")]
    let options : Options := ⟨"/node", .raw, false⟩
    before.DistinctKeys ∧ after.DistinctKeys
      ∧ (before.patchTo after (options.withPointerStyle .raw)).operations =
          [⟨.remove, "/node/~//", ofText "x"⟩, ⟨.add, "/node/~1", ofText "y"⟩]
      ∧ (before.patchTo after (options.withPointerStyle .escaped)).operations =
          [⟨.remove, "/node/~0~1/", ofText "x"⟩,
            ⟨.add, "/node/~01", ofText "y"⟩]
      ∧ Pointer.keysFrom? .escaped "/node" "/node/~0~1/" = some ["~/", ""]
      ∧ Pointer.keysFrom? .escaped "/node" "/node/~01" = some ["~1"]
      ∧ Pointer.keysFrom? .raw "/node" "/node/~1" = some ["~1"] := by
  intro before after options
  have distinctBefore : before.DistinctKeys := by
    simp [before, ofText, DistinctKeys, DistinctKeysWithin, Keyed.keys]
  have distinctAfter : after.DistinctKeys := by
    simp [after, ofText, DistinctKeys, DistinctKeysWithin, Keyed.keys]
  rcases patchTo_pointers before after options distinctBefore distinctAfter with
    ⟨-, -, -, isRead, -, isReadRaw⟩
  refine
    ⟨distinctBefore, distinctAfter, rfl, rfl, isRead ["~/", ""],
      isRead ["~1"], isReadRaw ["~1"] ?_⟩
  intro key member
  rw [List.mem_singleton] at member
  subst member
  decide

end Document

end LeafPatch
