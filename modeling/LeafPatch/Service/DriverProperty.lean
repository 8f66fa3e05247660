import LeafPatch.Document.Collection

/-!
# Driver properties

The properties of the driver that manages a machine are filled in on a form.
Those that say something new are written into the node under `driver_info`.
What has been there before stays unless it is no collection.
-/

namespace LeafPatch.Service

/-- A driver property as it is filled in. -/
structure DriverProperty where
  input : Option String
  default : Option String
  /-- Whether the property applies, given what else is filled in. -/
  active : Bool
  deriving DecidableEq

namespace DriverProperty

/-- The value to be written: an input that applies, is not empty and is not the default. -/
def effective? (property : DriverProperty) : Option String :=
  property.input.filter fun input =>
    property.active && input != "" && property.default != some input

theorem effective?_eq_some_iff
    {property : DriverProperty}
    {value : String} :
    property.effective? = some value ↔
      property.active = true
        ∧ property.input = some value
        ∧ value ≠ ""
        ∧ property.default ≠ some value := by
  rw [effective?, Option.filter_eq_some_iff, Bool.and_eq_true,
    Bool.and_eq_true, bne_iff_ne, bne_iff_ne, and_assoc, and_left_comm]

end DriverProperty

/-- The key under which a node has the properties of its driver. -/
def driverInfoKey : String :=
  "driver_info"

/-- The properties that a node has; without a collection of them, none. -/
def driverInfo (node : Collection) : Collection :=
  ((node.find? driverInfoKey).bind Collection.ofDocument?).getD
    Collection.empty

/-- Writes a property into a node. -/
def setDriverProperty
    (node : Collection)
    (name value : String) :
    Collection :=
  node.insert driverInfoKey
    ((driverInfo node).insert name (Document.ofText value)).toDocument

/-- Writes a property into a node if there is something to write. -/
def mergeDriverProperty
    (node : Collection)
    (property : String × DriverProperty) :
    Collection :=
  match property.2.effective? with
  | some value => setDriverProperty node property.1 value
  | none => node

/-- Writes properties into a node, one after the other. -/
def mergeDriverProperties
    (node : Collection)
    (properties : List (String × DriverProperty)) :
    Collection :=
  properties.foldl mergeDriverProperty node

end LeafPatch.Service
