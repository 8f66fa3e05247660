import LeafPatch.Document.Basic
import LeafPatch.Json.Basic
import LeafPatch.Timestamp.Text

/-!
# Documents and JSON

Each JSON value is classified once as a document: strings are dates where date
detection is on and they are internet timestamps, arrays and objects are
collections.  A document is written as JSON again with each number in its
canonical form and each date in universal time.
-/

namespace LeafPatch

namespace Scalar

/-- The scalar of a string: a date if dates are detected and it is one. -/
def ofText (detectDates : Bool) (value : String) : Scalar :=
  if detectDates then
    match Timestamp.parse? value with
    | some timestamp => date timestamp
    | none => text value
  else
    text value

/-- The scalar as JSON. -/
def toJson : Scalar → Json
  | number value => .number (Numeral.ofNumber value)
  | text value => .text value
  | date value => .text value.render

end Scalar

namespace Document

mutual

/-- Classifies a JSON value. -/
def ofJson (detectDates : Bool) : Json → Document
  | .null => unrecognized .null
  | .bool value => unrecognized (.bool value)
  | .number value => scalar (.number value.number)
  | .text value => scalar (.ofText detectDates value)
  | .array items =>
      collection .sequence
        (Keyed.indexed 0 (ofJsonItems detectDates items))
  | .object fields => collection .mapping (ofJsonFields detectDates fields)

/-- Classifies the items of an array. -/
def ofJsonItems (detectDates : Bool) : List Json → List Document
  | [] => []
  | item :: rest =>
      ofJson detectDates item :: ofJsonItems detectDates rest

/-- Classifies the fields of an object. -/
def ofJsonFields (detectDates : Bool) :
    List (String × Json) → List (String × Document)
  | [] => []
  | (key, value) :: rest =>
      (key, ofJson detectDates value) :: ofJsonFields detectDates rest

end

mutual

/-- The document as JSON. -/
def toJson : Document → Json
  | scalar value => value.toJson
  | unrecognized .null => .null
  | unrecognized (.bool value) => .bool value
  | collection .sequence entries => .array (toJsonItems entries)
  | collection .mapping entries => .object (toJsonFields entries)

/-- The children as items of an array. -/
def toJsonItems : List (String × Document) → List Json
  | [] => []
  | (_, child) :: rest => toJson child :: toJsonItems rest

/-- The children as fields of an object. -/
def toJsonFields :
    List (String × Document) → List (String × Json)
  | [] => []
  | (key, child) :: rest => (key, toJson child) :: toJsonFields rest

end

end Document

end LeafPatch
