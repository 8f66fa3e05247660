import LeafPatch.Proofs.Decoding.Options
import LeafPatch.Proofs.Patch.Pointers

/-!
# Patches that are rooted at the base path

However options come about, by settings or from a record of them, their base path
is valid, and nothing in a patch leaves it: the pointer of an operation is the
base path, or goes on from it behind a slash.  So the only pointer that does not
start with a slash is the empty one.  It stands for the whole document, where the
base path is empty and one of the two documents is a scalar.

The keys do not matter, even if they are empty or have slashes, because one key
already is more of a pointer than none.
-/

namespace LeafPatch

/-- A pointer that follows keys ends where it started or goes on behind a slash. -/
theorem Pointer.descend_eq_or_exists
    (style : Style)
    (pointer : String)
    (keys : List String) :
    (keys = [] ∧ descend style pointer keys = pointer)
      ∨ ∃ rest, descend style pointer keys = pointer ++ "/" ++ rest := by
  cases keys with
  | nil => exact Or.inl ⟨rfl, rfl⟩
  | cons key rest =>
      right
      exact ⟨_, descend_append_base style (pointer ++ "/") _ rest⟩

namespace Document

/-! ## Changes at the root -/

theorem keys_ne_nil_of_mem_onLeaves_collection
    {action : Action}
    {kind : CollectionKind}
    {entries : List (String × Document)}
    {change : Change}
    (found : change ∈ onLeaves action (collection kind entries)) :
    change.keys ≠ [] := by
  rw [onLeaves, leaves, leavesWithin_eq_flatMap] at found
  rcases List.mem_map.mp found with ⟨leaf, isLeaf, rfl⟩
  rcases List.mem_flatMap.mp isLeaf with ⟨entry, -, isBelow⟩
  rcases List.mem_map.mp isBelow with ⟨inner, -, rfl⟩
  exact List.cons_ne_nil _ _

theorem keys_ne_nil_of_mem_changes_collection
    {kind otherKind : CollectionKind}
    {before after : List (String × Document)}
    {change : Change}
    (found :
      change ∈ (collection kind before).changes (collection otherKind after)) :
    change.keys ≠ [] := by
  rw [changes, List.mem_append, changesWithin_eq_flatMap, List.mem_flatMap,
    mem_additions_iff] at found
  rcases found with ⟨entry, -, mapped⟩ | ⟨key, child, inner, -, -, -, rfl⟩
  · rcases List.mem_map.mp mapped with ⟨inner, -, rfl⟩
    exact List.cons_ne_nil _ _
  · exact List.cons_ne_nil _ _

/-- What changes at the root is a scalar that one of the documents is, or both are. -/
theorem isAbout_root
    {source target : Document}
    {change : Change}
    (found : change ∈ source.changes target)
    (atRoot : change.keys = [])
    (style : Pointer.Style)
    (pointer : String) :
    (change.locate style pointer).IsAbout source target [] := by
  cases source with
  | unrecognized value => cases target <;> cases found
  | scalar old =>
      cases target with
      | unrecognized value => cases found
      | scalar new =>
          rw [changes] at found
          split at found
          · cases found
          · cases List.mem_singleton.mp found
            exact ⟨new, rfl, rfl, old, rfl⟩
      | collection kind after =>
          rcases List.mem_append.mp found with removed | added
          · cases List.mem_singleton.mp removed
            exact ⟨old, rfl, rfl⟩
          · exact absurd atRoot (keys_ne_nil_of_mem_onLeaves_collection added)
  | collection kind before =>
      cases target with
      | unrecognized value => cases found
      | scalar new =>
          rcases List.mem_append.mp found with removed | added
          · exact absurd atRoot (keys_ne_nil_of_mem_onLeaves_collection removed)
          · cases List.mem_singleton.mp added
            exact ⟨new, rfl, rfl⟩
      | collection otherKind after =>
          exact absurd atRoot (keys_ne_nil_of_mem_changes_collection found)

end Document

namespace Options

/-- A pointer that goes on from a valid base path starts with a slash. -/
theorem head?_append_slash
    {base : String}
    (valid : ValidBasePath base)
    (rest : String) :
    (base ++ "/" ++ rest).toList.head? = some '/' := by
  rw [String.toList_append, String.toList_append]
  rcases valid with rfl | ⟨leading, -⟩
  · rfl
  · rw [List.append_assoc, List.head?_append, leading]
    rfl

/-- The pointers of a patch are rooted at the base path. -/
theorem paths_rooted
    {options : Options}
    (valid : ValidBasePath options.basePath)
    {source target : Document}
    {operation : Operation}
    (member : operation ∈ (source.patchTo target options).operations) :
    ((operation.path = "" ∧ options.basePath = ""
          ∧ operation.IsAbout source target [])
        ∨ operation.path.toList.head? = some '/')
      ∧ (operation.path = options.basePath
          ∨ ∃ rest, operation.path = options.basePath ++ "/" ++ rest) := by
  rw [Document.patchTo_operations] at member
  rcases List.mem_map.mp member with ⟨change, found, rfl⟩
  rcases
      Pointer.descend_eq_or_exists options.pointerStyle options.basePath
        change.keys with
    ⟨atRoot, isBase⟩ | ⟨rest, goesOn⟩
  · -- at the base path itself, which is empty or has its slash in front
    refine ⟨?_, Or.inl isBase⟩
    rcases valid with empty | ⟨leading, -⟩
    · left
      exact
        ⟨isBase.trans empty, empty,
          Document.isAbout_root found atRoot options.pointerStyle
            options.basePath⟩
    · right
      rw [Change.locate, isBase]
      exact leading
  · refine ⟨Or.inr ?_, Or.inr ⟨rest, goesOn⟩⟩
    rw [Change.locate, goesOn]
    exact head?_append_slash valid rest

/--
Options that come about by settings, from the default ones or from decoded ones,
have a valid base path.

A base path in a record of settings becomes that of the decoded options exactly
if options accept it, and otherwise both refuse it for the same reason.  Nothing
else is decoded than such records, and the options are those that their settings
lead to.  The options themselves are decoded again from what is stored of them,
and from its text.

Every operation of a patch is placed at the base path or behind a slash after it.
Its pointer starts with a slash, or it is empty; then the base path is empty and
the operation is about the root.
-/
theorem reachable_rooted
    (options : Options)
    (reachable : options.Reachable) :
    ValidBasePath options.basePath
      ∧ (∀ stored settings path,
          IsRecordOf stored settings → .basePath path ∈ settings →
            (decode stored).map basePath =
              ((options.withBasePath path).map basePath).mapError
                DecodeError.basePath)
      ∧ (∀ stored decoded, decode stored = .ok decoded →
          ∃ settings, IsRecordOf stored settings
            ∧ decoded = default.setAll settings)
      ∧ decode options.toJson = .ok options
      ∧ (Json.parse? options.toJson.render).map decode = some (.ok options)
      ∧ ∀ (source target : Document),
          ∀ operation ∈ (source.patchTo target options).operations,
            ((operation.path = "" ∧ options.basePath = ""
                  ∧ operation.IsAbout source target [])
                ∨ operation.path.toList.head? = some '/')
              ∧ (operation.path = options.basePath
                  ∨ ∃ rest,
                      operation.path = options.basePath ++ "/" ++ rest) := by
  have valid := reachable.validBasePath
  have restored := decode_toJson valid
  refine ⟨valid, ?_, ?_, restored, ?_, ?_⟩
  · intro stored settings path isRecord member
    exact map_basePath_decode isRecord member options
  · intro stored decoded isDecoded
    rcases decode_eq_ok_iff.mp isDecoded with ⟨settings, isRecord, accepted⟩
    exact ⟨settings, isRecord, (setAll_of_foldlM_set? accepted).symm⟩
  · rw [readsBack_toJson options, Option.map_some, restored]
  · intro source target operation member
    exact paths_rooted valid member

/--
One base path is refused before a valid one and another after it, which is also
refused in a record.  A scalar makes way for children under odd keys.
-/
theorem reachable_rooted_refusedSettings :
    let options :=
      default.setAll
        [.basePath "node", .basePath "/node", .pointerStyle .escaped,
          .basePath "/extra/"]
    let record : Json :=
      .object
        [("pointer_style", .object [("Escaped", .null)]),
          ("base_path", .text "/extra/")]
    let before := Document.ofText "a"
    let after : Document :=
      .collection .mapping [("", before), ("b/c", before)]
    (options = ⟨"/node", .escaped, false⟩ ∧ options.Reachable)
      ∧ ValidBasePath "/node"
      ∧ IsRecordOf record [.pointerStyle .escaped, .basePath "/extra/"]
      ∧ (decode record).map basePath =
          .error (.basePath (.trailingSlash "/extra/"))
      ∧ (Json.parse? options.toJson.render).map decode = some (.ok options)
      ∧ (before.patchTo after options).operations =
          [⟨.remove, "/node", before⟩, ⟨.add, "/node/", before⟩,
            ⟨.add, "/node/b~1c", before⟩]
      ∧ (∀ operation ∈ (before.patchTo after options).operations,
          operation.path = "/node"
            ∨ ∃ rest, operation.path = "/node" ++ "/" ++ rest)
      ∧ (before.patchTo after default).operations =
          [⟨.remove, "", before⟩, ⟨.add, "/", before⟩, ⟨.add, "/b/c", before⟩]
      ∧ Operation.IsAbout before after ⟨.remove, "", before⟩ [] := by
  intro options record before after
  have isOptions : options = ⟨"/node", .escaped, false⟩ := by decide
  have reachable : options.Reachable := ⟨default, _, Or.inl rfl, rfl⟩
  have isRecord :
      IsRecordOf record [.pointerStyle .escaped, .basePath "/extra/"] :=
    .object (.cons (.keyedStyle .escaped) (.cons (.basePath "/extra/") .nil))
      (by decide)
  rcases reachable_rooted options reachable with
    ⟨valid, sameVerdict, -, -, readAgain, rooted⟩
  rcases reachable_rooted default ⟨default, [], Or.inl rfl, rfl⟩ with
    ⟨-, -, -, -, -, rootedAtRoot⟩
  refine
    ⟨⟨isOptions, reachable⟩, ?_, isRecord, ?_, readAgain, ?_, ?_, rfl, ?_⟩
  · rw [isOptions] at valid
    exact valid
  · exact sameVerdict record _ "/extra/" isRecord (by simp)
  · rw [isOptions]
    rfl
  · intro operation member
    rcases rooted before after operation member with ⟨-, goesOn⟩
    rw [isOptions] at goesOn
    exact goesOn
  · have member :
        ⟨.remove, "", before⟩ ∈ (before.patchTo after default).operations :=
      List.mem_cons_self
    rcases (rootedAtRoot before after _ member).1 with ⟨-, -, atRoot⟩ | leading
    · exact atRoot
    · exact absurd leading (by decide)

end Options

end LeafPatch
