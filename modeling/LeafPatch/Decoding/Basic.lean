import LeafPatch.Json.Basic
import LeafPatch.Options
import LeafPatch.Text.Quoted

/-!
# Decoding JSON values

Stored patches and options are decoded from JSON values.  An enumeration is
given by the name of one of its values, or by an object with that name as its
only key and null under it.  A record is given by an object, whose fields are
decoded in their order, or by an array of its fields in the order of their
declaration.  The first thing that does not fit is the error.
-/

namespace LeafPatch

/-- What a decoder wants to find. -/
inductive Expectation where
  | text
  | boolean
  | double
  | sequence
  | variant
  | unit
  | record (name : String)
  deriving DecidableEq

/-- Why a JSON value is not decoded. -/
inductive DecodeError where
  | wrongKind (found : Json) (expected : Expectation)
  | unknownVariant (name : String) (variants : List String)
  /-- An object in the place of a variant that has no keys or several. -/
  | severalKeys
  /-- An array with too few items for a record of a number of fields. -/
  | tooShort (length : Nat) (record : String) (fields : Nat)
  /-- An array with too many items for a record. -/
  | tooLong (length : Nat)
  | missingField (name : String)
  | duplicateField (name : String)
  | unknownField (name : String) (fields : List String)
  | basePath (reason : BasePathError)

namespace Expectation

/-- The words for an expectation. -/
def phrase : Expectation → String
  | text => "a string"
  | boolean => "a boolean"
  | double => "f64"
  | sequence => "a sequence"
  | variant => "string or map"
  | unit => "unit"
  | record name => "struct " ++ name

end Expectation

namespace DecodeError

/-- The words for a JSON value that was not expected. -/
def phraseOf : Json → String
  | .null => "null"
  | .bool true => "boolean \x60true\x60"
  | .bool false => "boolean \x60false\x60"
  | .number (.integer value _) => "integer \x60" ++ toString value ++ "\x60"
  | .number (.float value) =>
      "floating point \x60"
        ++ String.ofList (FloatLayout.json.write value) ++ "\x60"
  | .text value => "string " ++ Text.quote value
  | .array _ => "sequence"
  | .object _ => "map"

/-- A name as it is shown in messages. -/
def tick (name : String) : String :=
  "\x60" ++ name ++ "\x60"

/-- The words for the names that are possible. -/
def oneOf (names : List String) : String :=
  match names with
  | [first, second] => tick first ++ " or " ++ tick second
  | names => "one of " ++ ", ".intercalate (names.map tick)

/-- The text of the error. -/
def message : DecodeError → String
  | wrongKind found expected =>
      "invalid type: " ++ phraseOf found ++ ", expected " ++ expected.phrase
  | unknownVariant name variants =>
      "unknown variant " ++ tick name ++ ", expected " ++ oneOf variants
  | severalKeys => "invalid value: map, expected map with a single key"
  | tooShort length record fields =>
      "invalid length " ++ toString length ++ ", expected struct " ++ record
        ++ " with " ++ toString fields ++ " elements"
  | tooLong length =>
      "invalid length " ++ toString length
        ++ ", expected fewer elements in array"
  | missingField name => "missing field " ++ tick name
  | duplicateField name => "duplicate field " ++ tick name
  | unknownField name fields =>
      "unknown field " ++ tick name ++ ", expected " ++ oneOf fields
  | basePath reason => reason.message

end DecodeError

/-- What a decoder answers. -/
abbrev Decoded (α : Type) :=
  Except DecodeError α

namespace Decoded

/-- Decodes a string. -/
def text : Json → Decoded String
  | .text value => .ok value
  | found => .error (.wrongKind found .text)

/-- Decodes a boolean. -/
def boolean : Json → Decoded Bool
  | .bool value => .ok value
  | found => .error (.wrongKind found .boolean)

/-- Decodes a double. -/
def double : Json → Decoded Number
  | .number value => .ok value.number
  | found => .error (.wrongKind found .double)

/-- Decodes what says nothing more about a variant. -/
def unit : Json → Decoded Unit
  | .null => .ok ()
  | found => .error (.wrongKind found .unit)

/-- Decodes an array, item by item. -/
def list {α : Type} (item : Json → Decoded α) : Json → Decoded (List α)
  | .array items => items.mapM item
  | found => .error (.wrongKind found .sequence)

/-- The value with a name, of some values. -/
def named {α : Type} (values : List α) (nameOf : α → String) (name : String) :
    Decoded α :=
  match values.find? (fun value => nameOf value == name) with
  | some value => .ok value
  | none => .error (.unknownVariant name (values.map nameOf))

/-- Decodes one of some values by its name. -/
def variant {α : Type} (values : List α) (nameOf : α → String) :
    Json → Decoded α
  | .text name => named values nameOf name
  | .object [(name, content)] => do
      let value ← named values nameOf name
      unit content
      return value
  | .object _ => .error .severalKeys
  | found => .error (.wrongKind found .variant)

/-- Decodes a field that must not be given twice. -/
def once {α : Type}
    (name : String)
    (before : Option α)
    (decode : Json → Decoded α)
    (content : Json) :
    Decoded (Option α) :=
  match before with
  | some _ => .error (.duplicateField name)
  | none => (decode content).map some

/-- A field that must be given. -/
def required {α : Type} (name : String) : Option α → Decoded α
  | some value => .ok value
  | none => .error (.missingField name)

end Decoded

end LeafPatch
