import LeafPatch.Proofs.Service.DriverProperty
import Mathlib.Data.List.Induction

/-!
# Driver properties laid over a node

The properties that are written into a node are laid over the collection under
`driver_info`: a name that is there keeps its place, and new names are appended in
the order in which something is first written under them.  That collection is all
that is written into the node, and only if there is something to write.

Laying properties over a node again finds each name with its last input already.
On the way to that state the inputs before the last one are written once more, so
no single step leaves the node as it is; the run as a whole does.
-/

namespace LeafPatch.Service

/-- The names under which something is written, in order and as often as it is. -/
def effectiveNames (properties : List (String × DriverProperty)) : List String :=
  (properties.filter fun property => property.2.effective?.isSome).map Prod.fst

@[simp]
theorem effectiveNames_nil : effectiveNames [] = [] :=
  rfl

theorem effectiveNames_cons_of_some
    {property : String × DriverProperty}
    {value : String}
    (isInput : property.2.effective? = some value)
    (rest : List (String × DriverProperty)) :
    effectiveNames (property :: rest) = property.1 :: effectiveNames rest := by
  simp [effectiveNames, isInput]

theorem effectiveNames_cons_of_none
    {property : String × DriverProperty}
    (noInput : property.2.effective? = none)
    (rest : List (String × DriverProperty)) :
    effectiveNames (property :: rest) = effectiveNames rest := by
  simp [effectiveNames, noInput]

theorem mem_effectiveNames_iff
    {name : String}
    {properties : List (String × DriverProperty)} :
    name ∈ effectiveNames properties ↔
      ∃ value, lastInput? name properties = some value := by
  rw [exists_lastInput?_iff]
  simp [effectiveNames, Option.isSome_iff_exists, Option.ne_none_iff_exists',
    and_comm]

/-- Something is written under a name by an active property with an input of its own. -/
theorem mem_effectiveNames_iff_exists
    {name : String}
    {properties : List (String × DriverProperty)} :
    name ∈ effectiveNames properties ↔
      ∃ property ∈ properties, property.1 = name
        ∧ ∃ input, property.2.active = true
          ∧ property.2.input = some input
          ∧ input ≠ ""
          ∧ property.2.default ≠ some input := by
  rw [mem_effectiveNames_iff, exists_lastInput?_iff]
  simp only [Option.ne_none_iff_exists', DriverProperty.effective?_eq_some_iff]

/-- Where nothing is written, steps that only write leave everything as it is. -/
theorem foldl_of_nothing
    {State : Type}
    {step : State → String × DriverProperty → State}
    (idle :
      ∀ state property, property.2.effective? = none →
        step state property = state)
    {properties : List (String × DriverProperty)}
    (nothing : effectiveNames properties = [])
    (state : State) :
    properties.foldl step state = state := by
  induction properties with
  | nil => rfl
  | cons property rest ih =>
      rw [List.foldl_cons]
      cases isInput : property.2.effective? with
      | none =>
          rw [effectiveNames_cons_of_none isInput] at nothing
          rw [idle state property isInput, ih nothing]
      | some value =>
          rw [effectiveNames_cons_of_some isInput] at nothing
          cases nothing

/-! ## Laying over a collection -/

theorem fillIn_of_some
    {property : String × DriverProperty}
    {value : String}
    (isInput : property.2.effective? = some value)
    (info : Collection) :
    fillIn info property = info.insert property.1 (Document.ofText value) := by
  rw [fillIn, isInput]

theorem fillIn_of_none
    {property : String × DriverProperty}
    (noInput : property.2.effective? = none)
    (info : Collection) :
    fillIn info property = info := by
  rw [fillIn, noInput]

/-- New names are appended in the order in which they are first written. -/
theorem keys_foldl_fillIn
    (info : Collection)
    (properties : List (String × DriverProperty)) :
    (properties.foldl fillIn info).keys =
      info.keys
        ++ ((effectiveNames properties).removeAll info.keys).eraseDups := by
  induction properties generalizing info with
  | nil => simp [List.removeAll]
  | cons property rest ih =>
      rw [List.foldl_cons]
      cases isInput : property.2.effective? with
      | none =>
          rw [fillIn_of_none isInput, ih, effectiveNames_cons_of_none isInput]
      | some value =>
          have step :
              (fillIn info property).keys =
                if property.1 ∈ info.keys then info.keys
                else info.keys ++ [property.1] := by
            rw [fillIn_of_some isInput]
            exact Keyed.keys_insert _ _ _
          rw [ih, step, effectiveNames_cons_of_some isInput]
          by_cases known : property.1 ∈ info.keys
          · simp [known, List.removeAll]
          · -- What is appended is new once, and known from then on.
            simp [known, List.removeAll, List.eraseDups_cons,
              List.filter_filter, beq_eq_decide, Bool.and_comm]

/-- A child under another name stays where it is. -/
theorem getElem?_foldl_fillIn
    (info : Collection)
    (properties : List (String × DriverProperty))
    {index : Nat}
    {name : String}
    {child : Document}
    (place : info.entries[index]? = some (name, child))
    (notWritten : name ∉ effectiveNames properties) :
    (properties.foldl fillIn info).entries[index]? = some (name, child) := by
  induction properties generalizing info with
  | nil => exact place
  | cons property rest ih =>
      rw [List.foldl_cons]
      cases isInput : property.2.effective? with
      | none =>
          rw [effectiveNames_cons_of_none isInput] at notWritten
          rw [fillIn_of_none isInput]
          exact ih info place notWritten
      | some value =>
          rw [effectiveNames_cons_of_some isInput, List.mem_cons, not_or]
            at notWritten
          rw [fillIn_of_some isInput]
          exact
            ih _ (Keyed.getElem?_insert_of_ne notWritten.1 _ place)
              notWritten.2

/-- What is written last under a name hides what was there before others were written. -/
theorem insert_foldl_fillIn
    (info : Collection)
    (properties : List (String × DriverProperty))
    (name : String)
    (old new : Document)
    (known : ∀ written ∈ effectiveNames properties, written ∈ info.keys) :
    (properties.foldl fillIn (info.insert name old)).insert name new =
      (properties.foldl fillIn info).insert name new := by
  induction properties generalizing info with
  | nil => exact congrArg _ (Keyed.insert_insert_self name old new info.entries)
  | cons property rest ih =>
      rw [List.foldl_cons, List.foldl_cons]
      cases isInput : property.2.effective? with
      | none =>
          rw [effectiveNames_cons_of_none isInput] at known
          rw [fillIn_of_none isInput, fillIn_of_none isInput]
          exact ih info known
      | some value =>
          rw [effectiveNames_cons_of_some isInput, List.forall_mem_cons] at known
          rw [fillIn_of_some isInput, fillIn_of_some isInput]
          by_cases same : property.1 = name
          · have hidden :
                (info.insert name old).insert property.1 (Document.ofText value) =
                  info.insert property.1 (Document.ofText value) := by
              rw [same]
              exact congrArg _ (Keyed.insert_insert_self _ _ _ _)
            rw [hidden]
          · have swapped :
                (info.insert name old).insert property.1 (Document.ofText value) =
                  (info.insert property.1 (Document.ofText value)).insert name
                    old :=
              congrArg _ (Keyed.insert_comm same _ _ known.1)
            rw [swapped]
            apply ih
            intro written member
            show written ∈ Keyed.keys (Keyed.insert _ _ _)
            rw [Keyed.keys_insert_of_mem _ known.1]
            exact known.2 written member

/-- Laying properties over a collection again changes nothing. -/
theorem foldl_fillIn_again
    (info : Collection)
    (properties : List (String × DriverProperty)) :
    properties.foldl fillIn (properties.foldl fillIn info) =
      properties.foldl fillIn info := by
  induction properties using List.reverseRecOn with
  | nil => rfl
  | append_singleton before property ih =>
      simp only [List.foldl_append, List.foldl_cons, List.foldl_nil]
      cases isInput : property.2.effective? with
      | none => rw [fillIn_of_none isInput, fillIn_of_none isInput, ih]
      | some value =>
          have known :
              ∀ written ∈ effectiveNames before,
                written ∈ (before.foldl fillIn info).keys := by
            intro written member
            by_cases old : written ∈ info.keys <;>
              simp [keys_foldl_fillIn, List.removeAll, member, old]
          rw [fillIn_of_some isInput, fillIn_of_some isInput,
            insert_foldl_fillIn _ _ _ _ _ known, ih]

/-! ## Laying over a node -/

@[simp]
theorem driverInfo_insert (node info : Collection) :
    driverInfo (node.insert driverInfoKey info.toDocument) = info := by
  rw [driverInfo, Collection.find?_insert, if_pos rfl]
  rfl

theorem driverInfo_of_collection
    {node : Collection}
    {kind : CollectionKind}
    {children : List (String × Document)}
    (isCollection :
      node.find? driverInfoKey = some (.collection kind children)) :
    driverInfo node = ⟨kind, children⟩ := by
  rw [driverInfo, isCollection]
  rfl

theorem driverInfo_of_no_collection
    {node : Collection}
    (noCollection :
      ∀ kind children,
        node.find? driverInfoKey ≠ some (.collection kind children)) :
    driverInfo node = Collection.empty := by
  rw [driverInfo]
  cases found : node.find? driverInfoKey with
  | none => rfl
  | some info =>
      cases info with
      | scalar value => rfl
      | unrecognized value => rfl
      | collection kind children => exact absurd found (noCollection kind children)

section Merged

variable
    (node : Collection)
    (properties : List (String × DriverProperty))

theorem mergeDriverProperties_of_nothing
    (nothing : effectiveNames properties = []) :
    mergeDriverProperties node properties = node := by
  refine foldl_of_nothing ?_ nothing node
  intro node property noInput
  rw [mergeDriverProperty, noInput]

/-- All that happens to a node is that one child is written, once. -/
theorem mergeDriverProperties_eq_insert
    (written : effectiveNames properties ≠ []) :
    mergeDriverProperties node properties =
      node.insert driverInfoKey
        (properties.foldl fillIn (driverInfo node)).toDocument := by
  induction properties generalizing node with
  | nil => exact absurd rfl written
  | cons property rest ih =>
      rw [mergeDriverProperties_cons, List.foldl_cons]
      cases isInput : property.2.effective? with
      | none =>
          rw [effectiveNames_cons_of_none isInput] at written
          rw [mergeDriverProperty, fillIn_of_none isInput, isInput]
          exact ih node written
      | some value =>
          have step :
              mergeDriverProperty node property =
                node.insert driverInfoKey
                  (fillIn (driverInfo node) property).toDocument := by
            rw [mergeDriverProperty, isInput, fillIn_of_some isInput]
            rfl
          rw [step]
          by_cases last : effectiveNames rest = []
          · rw [mergeDriverProperties_of_nothing _ _ last,
              foldl_of_nothing
                (fun info _ noInput => fillIn_of_none noInput info) last]
          · rw [ih _ last, driverInfo_insert]
            exact congrArg _ (Keyed.insert_insert_self _ _ _ _)

/--
Properties are laid over a node: nothing but the child under `driver_info` is
written, and that only if there is something to write.  That is the case for an
active property whose input is neither empty nor the default.

The child is a collection then.  One that was there keeps its kind and its
children under other names, in their places; anything else gives way, in its
place, to an object.  Each name that is written has its last input, and new names
are appended in the order in which they are first written.

Properties can be laid over in portions, and laying them over again changes
nothing.
-/
theorem mergeDriverProperties_overlay
    (node : Collection)
    (properties : List (String × DriverProperty)) :
    let merged := mergeDriverProperties node properties
    let names := effectiveNames properties
    merged.kind = node.kind
      ∧ (∀ name, name ∈ names ↔
          ∃ property ∈ properties, property.1 = name
            ∧ ∃ input, property.2.active = true
              ∧ property.2.input = some input
              ∧ input ≠ ""
              ∧ property.2.default ≠ some input)
      ∧ (∀ (index : Nat) key child,
          node.entries[index]? = some (key, child) → key ≠ driverInfoKey →
            merged.entries[index]? = some (key, child))
      ∧ (names = [] → merged = node)
      ∧ (names ≠ [] →
          merged.keys =
              (if driverInfoKey ∈ node.keys then node.keys
                else node.keys ++ [driverInfoKey])
            ∧ ∃ info : Collection,
                merged.find? driverInfoKey = some info.toDocument
              ∧ (∀ name ∈ names, ∃ value,
                  lastInput? name properties = some value
                    ∧ info.find? name = some (Document.ofText value))
              ∧ (∀ kind children,
                  node.find? driverInfoKey = some (.collection kind children) →
                    info.kind = kind
                      ∧ info.keys =
                          Keyed.keys children
                            ++ (names.removeAll (Keyed.keys children)).eraseDups
                      ∧ ∀ (index : Nat) name child,
                          children[index]? = some (name, child) →
                            name ∉ names →
                              info.entries[index]? = some (name, child))
              ∧ ((∀ kind children,
                    node.find? driverInfoKey ≠
                      some (.collection kind children)) →
                  info.kind = .mapping ∧ info.keys = names.eraseDups))
      ∧ (∀ later,
          mergeDriverProperties node (properties ++ later) =
            mergeDriverProperties merged later)
      ∧ mergeDriverProperties merged properties = merged := by
  intro merged names
  by_cases written : names = []
  · have isNode : merged = node :=
      mergeDriverProperties_of_nothing node properties written
    refine
      ⟨congrArg _ isNode, fun _ => mem_effectiveNames_iff_exists, ?_,
        fun _ => isNode, fun some => absurd written some,
        fun later => List.foldl_append, ?_⟩
    · intro index key child place _
      rw [isNode]
      exact place
    · rw [isNode]
      exact isNode
  · have isMerged :
        merged =
          node.insert driverInfoKey
            (properties.foldl fillIn (driverInfo node)).toDocument :=
      mergeDriverProperties_eq_insert node properties written
    refine
      ⟨kind_mergeDriverProperties node properties,
        fun _ => mem_effectiveNames_iff_exists, ?_,
        fun nothing => absurd nothing written, fun _ => ⟨?_, ?_⟩,
        fun later => List.foldl_append, ?_⟩
    · intro index key child place other
      rw [isMerged]
      exact Keyed.getElem?_insert_of_ne other _ place
    · rw [isMerged]
      exact Keyed.keys_insert _ _ _
    · refine ⟨properties.foldl fillIn (driverInfo node), ?_, ?_, ?_, ?_⟩
      · rw [isMerged, Collection.find?_insert, if_pos rfl]
      · intro name member
        rcases mem_effectiveNames_iff.mp member with ⟨value, isLast⟩
        refine ⟨value, isLast, ?_⟩
        rw [find?_foldl_fillIn, isLast]
        rfl
      · intro kind children isCollection
        rw [driverInfo_of_collection isCollection]
        exact
          ⟨kind_foldl_fillIn _ properties, keys_foldl_fillIn _ properties,
            fun _ _ _ place other =>
              getElem?_foldl_fillIn ⟨kind, children⟩ properties place other⟩
      · intro noCollection
        rw [driverInfo_of_no_collection noCollection]
        refine ⟨kind_foldl_fillIn _ properties, ?_⟩
        rw [keys_foldl_fillIn, show Collection.empty.keys = [] from rfl,
          List.nil_append, List.removeAll_nil]
    · rw [isMerged,
        mergeDriverProperties_eq_insert _ _ written, driverInfo_insert,
        foldl_fillIn_again]
      exact congrArg _ (Keyed.insert_insert_self _ _ _ _)

end Merged

/--
A property at its default, an inactive and an empty one are not written; a name
that was there keeps its place, and a repeated name has its last input.
-/
theorem mergeDriverProperties_overlay_repeatedName :
    let node : Collection :=
      ⟨.mapping,
        [("driver_info",
            .collection .mapping
              [("user", .ofText "nobody"), ("address", .ofText "10.0.0.1")]),
          ("name", .ofText "rack")]⟩
    let properties : List (String × DriverProperty) :=
      [("port", ⟨some "623", some "623", true⟩),
        ("secret", ⟨some "key", none, false⟩),
        ("bridge", ⟨some "", none, true⟩),
        ("token", ⟨some "1", none, true⟩),
        ("user", ⟨some "root", none, true⟩),
        ("user", ⟨some "admin", none, true⟩)]
    let merged := mergeDriverProperties node properties
    effectiveNames properties = ["token", "user", "user"]
      ∧ merged.keys = ["driver_info", "name"]
      ∧ merged.entries[1]? = some ("name", .ofText "rack")
      ∧ mergeDriverProperties merged properties = merged
      ∧ ∃ info : Collection,
          merged.find? "driver_info" = some info.toDocument
            ∧ info.keys = ["user", "address", "token"]
            ∧ info.entries[1]? = some ("address", .ofText "10.0.0.1")
            ∧ info.find? "user" = some (.ofText "admin")
            ∧ info.find? "token" = some (.ofText "1") := by
  intro node properties merged
  have names : effectiveNames properties = ["token", "user", "user"] := rfl
  rcases mergeDriverProperties_overlay node properties with
    ⟨-, -, others, -, written, -, again⟩
  rcases written (by simp [names]) with
    ⟨keys, info, isInfo, inputs, overCollection, -⟩
  rcases overCollection .mapping _ rfl with ⟨-, infoKeys, places⟩
  have input (name value : String)
      (member : name ∈ effectiveNames properties)
      (isLast : lastInput? name properties = some value) :
      info.find? name = some (.ofText value) := by
    rcases inputs name member with ⟨other, isOther, found⟩
    cases isLast.symm.trans isOther
    exact found
  refine
    ⟨names, keys, others 1 _ _ rfl (by decide), again, info, isInfo, infoKeys,
      places 1 _ _ rfl (by simp [names]), ?_, ?_⟩
  · exact input "user" "admin" (by simp [names]) rfl
  · exact input "token" "1" (by simp [names]) rfl

end LeafPatch.Service
