import LeafPatch.Proofs.Document.Reading
import LeafPatch.Service.DriverProperty

/-!
# Driver properties in a stored node

Writing a property changes one child of a node, the collection under
`driver_info`, and there the child under the name of the property.  So what is
written at last under a name stays, and it is a string.

The collection keeps its kind.  An object comes out as an object that has the
properties by their names.  An array that was there comes out as an array, which
has no names.
-/

namespace LeafPatch.Service

/-- The input that is written last under a name. -/
def lastInput?
    (name : String)
    (properties : List (String × DriverProperty)) :
    Option String :=
  properties.reverse.findSome? fun property =>
    if property.1 = name then property.2.effective? else none

/-- Puts a property into a collection if there is something to write. -/
def fillIn
    (info : Collection)
    (property : String × DriverProperty) :
    Collection :=
  match property.2.effective? with
  | some value => info.insert property.1 (Document.ofText value)
  | none => info

theorem lastInput?_cons
    (name : String)
    (property : String × DriverProperty)
    (rest : List (String × DriverProperty)) :
    lastInput? name (property :: rest) =
      (lastInput? name rest).or
        (if property.1 = name then property.2.effective? else none) := by
  rw [lastInput?, List.reverse_cons, List.findSome?_append,
    List.findSome?_singleton, lastInput?]

theorem exists_lastInput?_iff
    {name : String}
    {properties : List (String × DriverProperty)} :
    (∃ value, lastInput? name properties = some value) ↔
      ∃ property ∈ properties,
        property.1 = name ∧ property.2.effective? ≠ none := by
  rw [← Option.isSome_iff_exists, lastInput?, List.isSome_findSome?]
  simp [Option.isSome_iff_ne_none]

/-! ## Filling in a collection -/

@[simp]
theorem kind_fillIn
    (info : Collection)
    (property : String × DriverProperty) :
    (fillIn info property).kind = info.kind := by
  rw [fillIn]
  split <;> rfl

theorem kind_foldl_fillIn
    (info : Collection)
    (properties : List (String × DriverProperty)) :
    (properties.foldl fillIn info).kind = info.kind := by
  induction properties generalizing info with
  | nil => rfl
  | cons property rest ih => rw [List.foldl_cons, ih, kind_fillIn]

/-- Under a name there is the last input for it, or what has been there. -/
theorem find?_foldl_fillIn
    (info : Collection)
    (properties : List (String × DriverProperty))
    (name : String) :
    (properties.foldl fillIn info).find? name =
      ((lastInput? name properties).map Document.ofText).or
        (info.find? name) := by
  induction properties generalizing info with
  | nil => rfl
  | cons property rest ih =>
      have step :
          (fillIn info property).find? name =
            ((if property.1 = name then property.2.effective? else none).map
              Document.ofText).or (info.find? name) := by
        rw [fillIn]
        cases property.2.effective? with
        | none => simp
        | some value =>
            rw [Collection.find?_insert]
            split <;> rfl
      rw [List.foldl_cons, ih, step, lastInput?_cons, Option.map_or,
        Option.or_assoc]

/-! ## Writing into a node -/

/-- Unless there is an array, the properties of a node are those of an object. -/
theorem kind_driverInfo
    {node : Collection}
    (noArray :
      ∀ items, node.find? driverInfoKey ≠ some (.collection .sequence items)) :
    (driverInfo node).kind = .mapping := by
  rw [driverInfo]
  cases found : node.find? driverInfoKey with
  | none => rfl
  | some info =>
      cases info with
      | scalar value => rfl
      | unrecognized value => rfl
      | collection kind items =>
          cases kind with
          | mapping => rfl
          | sequence => exact absurd found (noArray items)

section Step

variable
    (node : Collection)
    (property : String × DriverProperty)

@[simp]
theorem kind_mergeDriverProperty :
    (mergeDriverProperty node property).kind = node.kind := by
  rw [mergeDriverProperty]
  split <;> rfl

theorem find?_mergeDriverProperty_of_ne
    {key : String}
    (other : key ≠ driverInfoKey) :
    (mergeDriverProperty node property).find? key = node.find? key := by
  rw [mergeDriverProperty]
  split
  · rw [setDriverProperty, Collection.find?_insert, if_neg (Ne.symm other)]
  · rfl

@[simp]
theorem driverInfo_setDriverProperty (name value : String) :
    driverInfo (setDriverProperty node name value) =
      (driverInfo node).insert name (Document.ofText value) := by
  rw [driverInfo, setDriverProperty, Collection.find?_insert, if_pos rfl]
  rfl

theorem driverInfo_mergeDriverProperty :
    driverInfo (mergeDriverProperty node property) =
      fillIn (driverInfo node) property := by
  unfold mergeDriverProperty fillIn
  cases property.2.effective? with
  | some value => exact driverInfo_setDriverProperty node property.1 value
  | none => rfl

/-- What is written is there as a collection, and stays one. -/
theorem find?_mergeDriverProperty
    (present :
      property.2.effective? ≠ none
        ∨ node.find? driverInfoKey = some (driverInfo node).toDocument) :
    (mergeDriverProperty node property).find? driverInfoKey =
      some (driverInfo (mergeDriverProperty node property)).toDocument := by
  unfold mergeDriverProperty
  cases isInput : property.2.effective? with
  | some value =>
      dsimp only
      rw [driverInfo_setDriverProperty, setDriverProperty,
        Collection.find?_insert, if_pos rfl]
  | none =>
      rcases present with effective | present
      · exact absurd isInput effective
      · exact present

end Step

section Run

variable
    (node : Collection)
    (properties : List (String × DriverProperty))

theorem mergeDriverProperties_cons (property : String × DriverProperty) :
    mergeDriverProperties node (property :: properties) =
      mergeDriverProperties (mergeDriverProperty node property) properties :=
  rfl

theorem kind_mergeDriverProperties :
    (mergeDriverProperties node properties).kind = node.kind := by
  induction properties generalizing node with
  | nil => rfl
  | cons property rest ih =>
      rw [mergeDriverProperties_cons, ih, kind_mergeDriverProperty]

theorem find?_mergeDriverProperties_of_ne
    {key : String}
    (other : key ≠ driverInfoKey) :
    (mergeDriverProperties node properties).find? key = node.find? key := by
  induction properties generalizing node with
  | nil => rfl
  | cons property rest ih =>
      rw [mergeDriverProperties_cons, ih,
        find?_mergeDriverProperty_of_ne node property other]

theorem driverInfo_mergeDriverProperties :
    driverInfo (mergeDriverProperties node properties) =
      properties.foldl fillIn (driverInfo node) := by
  induction properties generalizing node with
  | nil => rfl
  | cons property rest ih =>
      rw [mergeDriverProperties_cons, ih, driverInfo_mergeDriverProperty,
        List.foldl_cons]

theorem find?_mergeDriverProperties
    (present :
      (∃ property ∈ properties, property.2.effective? ≠ none)
        ∨ node.find? driverInfoKey = some (driverInfo node).toDocument) :
    (mergeDriverProperties node properties).find? driverInfoKey =
      some (driverInfo (mergeDriverProperties node properties)).toDocument := by
  induction properties generalizing node with
  | nil =>
      rcases present with ⟨property, member, -⟩ | present
      · cases member
      · exact present
  | cons property rest ih =>
      rw [mergeDriverProperties_cons]
      apply ih
      rcases present with ⟨effective, member, isEffective⟩ | present
      · rcases List.mem_cons.mp member with rfl | later
        · exact
            Or.inr
              (find?_mergeDriverProperty node effective (Or.inl isEffective))
        · exact Or.inl ⟨effective, later, isEffective⟩
      · exact
          Or.inr (find?_mergeDriverProperty node property (Or.inr present))

end Run

/--
A node into which properties are written goes out as an object, with its other
fields as they were.

Unless there was an array under `driver_info`, there is an object then: each
property has the last input for it, as a string, and what else was there stays.
An array stays an array, to which the inputs are added as nameless items; a name
that is an index replaces the item there.
-/
theorem toJson_mergeDriverProperties
    (node : Collection)
    (properties : List (String × DriverProperty))
    (isObject : node.kind = .mapping)
    (effective : ∃ property ∈ properties, property.2.effective? ≠ none) :
    ∃ fields,
      (mergeDriverProperties node properties).toDocument.toJson =
          .object fields
        ∧ (∀ key, key ≠ driverInfoKey →
            Keyed.find? key fields = (node.find? key).map Document.toJson)
        ∧ ((∀ items,
              node.find? driverInfoKey ≠ some (.collection .sequence items)) →
            ∃ info, Keyed.find? driverInfoKey fields = some (.object info)
              ∧ (∀ property ∈ properties, property.2.effective? ≠ none →
                  ∃ value, lastInput? property.1 properties = some value
                    ∧ Keyed.find? property.1 info = some (.text value))
              ∧ ∀ name, lastInput? name properties = none →
                  Keyed.find? name info =
                    ((driverInfo node).find? name).map Document.toJson)
        ∧ ∀ items,
            node.find? driverInfoKey = some (.collection .sequence items) →
              Keyed.find? driverInfoKey fields =
                some
                  (.array
                    ((properties.foldl fillIn ⟨.sequence, items⟩).entries.map
                      fun entry => entry.2.toJson)) := by
  have isStillObject : (mergeDriverProperties node properties).kind = .mapping := by
    rw [kind_mergeDriverProperties, isObject]
  have written := find?_mergeDriverProperties node properties (Or.inl effective)
  rw [driverInfo_mergeDriverProperties] at written
  refine
    ⟨Document.toJsonFields (mergeDriverProperties node properties).entries,
      ?_, ?_, ?_, ?_⟩
  · rw [Collection.toDocument, isStillObject, Document.toJson]
  · intro key other
    rw [Document.find?_toJsonFields, ← Collection.find?,
      find?_mergeDriverProperties_of_ne node properties other]
  · intro noArray
    have kind : (properties.foldl fillIn (driverInfo node)).kind = .mapping := by
      rw [kind_foldl_fillIn]
      exact kind_driverInfo noArray
    refine
      ⟨Document.toJsonFields (properties.foldl fillIn (driverInfo node)).entries,
        ?_, ?_, ?_⟩
    · rw [Document.find?_toJsonFields, ← Collection.find?, written,
        Option.map_some, Collection.toDocument, kind, Document.toJson]
    · intro property member isEffective
      rcases exists_lastInput?_iff.mpr ⟨property, member, rfl, isEffective⟩ with
        ⟨value, isLast⟩
      refine ⟨value, isLast, ?_⟩
      rw [Document.find?_toJsonFields, ← Collection.find?,
        find?_foldl_fillIn, isLast]
      rfl
    · intro name notGiven
      rw [Document.find?_toJsonFields, ← Collection.find?,
        find?_foldl_fillIn, notGiven, Option.map_none, Option.none_or]
  · intro items isArray
    have isInfo : driverInfo node = ⟨.sequence, items⟩ := by
      rw [driverInfo, isArray]
      rfl
    have kind : (properties.foldl fillIn ⟨.sequence, items⟩).kind = .sequence :=
      kind_foldl_fillIn _ properties
    rw [Document.find?_toJsonFields, ← Collection.find?, written, isInfo,
      Option.map_some, Collection.toDocument, kind, Document.toJson,
      Document.toJsonItems_eq_map, List.map_map]
    rfl

/--
A property that is given twice, over a string, beside one left at its default, one
that does not apply and one left empty.
-/
theorem toJson_mergeDriverProperties_overText :
    let node : Collection :=
      ⟨.mapping, [("name", .ofText "rack"), ("driver_info", .ofText "bogus")]⟩
    let properties : List (String × DriverProperty) :=
      [("ipmi_username", ⟨some "root", none, true⟩),
        ("ipmi_port", ⟨some "623", some "623", true⟩),
        ("ipmi_password", ⟨some "secret", none, false⟩),
        ("ipmi_bridging", ⟨some "", none, true⟩),
        ("ipmi_username", ⟨some "admin", none, true⟩)]
    node.kind = .mapping
      ∧ (∃ property ∈ properties, property.2.effective? ≠ none)
      ∧ ∃ fields info,
          (mergeDriverProperties node properties).toDocument.toJson =
              .object fields
            ∧ Keyed.find? "name" fields = some (.text "rack")
            ∧ Keyed.find? driverInfoKey fields = some (.object info)
            ∧ Keyed.find? "ipmi_username" info = some (.text "admin")
            ∧ Keyed.find? "ipmi_port" info = none
            ∧ Keyed.find? "ipmi_password" info = none
            ∧ Keyed.find? "ipmi_bridging" info = none := by
  intro node properties
  have effective :
      ∃ property ∈ properties, property.2.effective? ≠ none :=
    ⟨_, List.mem_cons_self, by decide⟩
  rcases toJson_mergeDriverProperties node properties rfl effective with
    ⟨fields, isObject, others, written, -⟩
  rcases written (by rintro items ⟨⟩) with ⟨info, isInfo, given, notGiven⟩
  refine
    ⟨rfl, effective, fields, info, isObject, ?_, isInfo, ?_,
      notGiven "ipmi_port" rfl, notGiven "ipmi_password" rfl,
      notGiven "ipmi_bridging" rfl⟩
  · exact others "name" (by decide)
  · rcases given _ List.mem_cons_self (by decide) with ⟨value, isLast, isValue⟩
    cases isLast
    exact isValue

/-- An array under the key of the properties: the name of the input is lost. -/
theorem toJson_mergeDriverProperties_nameless :
    let node : Collection :=
      ⟨.mapping, [("driver_info", (Collection.sequence [.ofText "x"]).toDocument)]⟩
    let properties : List (String × DriverProperty) :=
      [("ipmi_username", ⟨some "admin", none, true⟩)]
    node.kind = .mapping
      ∧ lastInput? "ipmi_username" properties = some "admin"
      ∧ (mergeDriverProperties node properties).toDocument.toJson =
          .object [("driver_info", .array [.text "x", .text "admin"])]
      ∧ ∀ fields info,
          (mergeDriverProperties node properties).toDocument.toJson =
              .object fields →
            Keyed.find? driverInfoKey fields ≠ some (.object info) := by
  intro node properties
  refine ⟨rfl, rfl, rfl, ?_⟩
  rintro fields info ⟨⟩ isObject
  cases isObject

end LeafPatch.Service
