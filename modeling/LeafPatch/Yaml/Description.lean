import LeafPatch.Decimal.Layout
import LeafPatch.Text.Quoted
import LeafPatch.Yaml.Basic

/-!
# Descriptions of YAML values

The text that shows a YAML value in a message: the kind of each value and its
content.  Keys of mappings that are booleans, numbers or strings are shown by
their content alone.
-/

namespace LeafPatch.Yaml

/-- The text of a value that is not finite. -/
def nonFiniteText : NonFinite → String
  | .infinity false => ".inf"
  | .infinity true => "-.inf"
  | .notANumber => ".nan"

/-- A number. -/
def floatText (number : Number) : String :=
  String.ofList (FloatLayout.description.write number)

/-- The text of a boolean. -/
def boolText (value : Bool) : String :=
  if value then "true" else "false"

/-- The tag as it is written. -/
def tagText (tag : String) : String :=
  "!" ++ tag

/-- A scalar by its kind and its content, or as a key by its content alone. -/
def describeScalar (asKey : Bool) (kind content : String) : String :=
  if asKey then content else kind ++ "(" ++ content ++ ")"

mutual

/-- The description of a value, or of a key. -/
def describeAs (asKey : Bool) : Yaml → String
  | null => "Null"
  | bool value => describeScalar asKey "Bool" (boolText value)
  | integer value => describeScalar asKey "Number" (toString value)
  | float value => describeScalar asKey "Number" (floatText value)
  | nonFinite value => describeScalar asKey "Number" (nonFiniteText value)
  | text value => describeScalar asKey "String" (Text.quote value)
  | sequence items =>
      "Sequence [" ++ ", ".intercalate (describeItems items) ++ "]"
  | mapping entries =>
      "Mapping \x7b" ++ ", ".intercalate (describeEntries entries) ++ "\x7d"
  | tagged tag content =>
      "TaggedValue \x7b tag: " ++ tagText tag ++ ", value: "
        ++ describeAs false content ++ " \x7d"

/-- The descriptions of the items of a sequence. -/
def describeItems : List Yaml → List String
  | [] => []
  | item :: rest => describeAs false item :: describeItems rest

/-- The descriptions of the pairs of a mapping. -/
def describeEntries : List (Yaml × Yaml) → List String
  | [] => []
  | (key, value) :: rest =>
      (describeAs true key ++ ": " ++ describeAs false value)
        :: describeEntries rest

end

/-- The description of a value. -/
def describe (value : Yaml) : String :=
  describeAs false value

end LeafPatch.Yaml
