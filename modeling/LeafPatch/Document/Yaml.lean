import LeafPatch.Document.Error
import LeafPatch.Document.Json
import LeafPatch.Yaml.Basic

/-!
# Documents and YAML

A YAML value is classified like the JSON value of the same shape.  The first
thing in document order that has no such counterpart is an error; a key comes
before its value.
-/

namespace LeafPatch.Document

mutual

/-- Classifies a YAML value. -/
def ofYaml (detectDates : Bool) : Yaml → Except DocumentError Document
  | .null => .ok (unrecognized .null)
  | .bool value => .ok (unrecognized (.bool value))
  | .integer value => .ok (scalar (.number (Number.ofInt value)))
  | .float value => .ok (scalar (.number value))
  | .nonFinite value => .error (.notFinite value)
  | .text value => .ok (scalar (.ofText detectDates value))
  | .sequence items => do
      let children ← ofYamlItems detectDates items
      return collection .sequence (Keyed.indexed 0 children)
  | .mapping entries => do
      let children ← ofYamlEntries detectDates [] entries
      return collection .mapping children
  | .tagged tag _ => .error (.unsupportedTag tag)

/-- Classifies the items of a sequence. -/
def ofYamlItems (detectDates : Bool) :
    List Yaml → Except DocumentError (List Document)
  | [] => .ok []
  | item :: rest => do
      let child ← ofYaml detectDates item
      let children ← ofYamlItems detectDates rest
      return child :: children

/-- Classifies the pairs of a mapping and gives them to the children before them. -/
def ofYamlEntries
    (detectDates : Bool)
    (children : List (String × Document)) :
    List (Yaml × Yaml) → Except DocumentError (List (String × Document))
  | [] => .ok children
  | (.text key, value) :: rest => do
      let child ← ofYaml detectDates value
      ofYamlEntries detectDates (Keyed.insert key child children) rest
  | (key, _) :: _ => .error (.nonStringKey key)

end

end LeafPatch.Document
