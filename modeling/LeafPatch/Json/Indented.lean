import LeafPatch.Json.Printer

/-!
# Indented form of JSON values

The form in which JSON files are kept: every item and every field on a line of
its own, two columns deeper than what it is part of, a blank after each colon,
and a line break at the end.  Empty arrays and objects stay on their line.
-/

namespace LeafPatch.Json

/-- A line break and the indentation of the line after it. -/
def lineStart (depth : Nat) : List Char :=
  '\n' :: List.replicate (2 * depth) ' '

mutual

/-- The indented form of a value, without a line break at the end. -/
def indented (depth : Nat) : Json → List Char
  | array [] => ['[', ']']
  | array (item :: rest) =>
      '[' :: lineStart (depth + 1) ++ indented (depth + 1) item
        ++ indentedItems depth rest
  | object [] => ['{', '}']
  | object ((key, value) :: rest) =>
      '{' :: lineStart (depth + 1) ++ writeText key ++ ':' :: ' ' ::
        indented (depth + 1) value ++ indentedFields depth rest
  | value => value.write

/-- The items after the first, and the end of their array. -/
def indentedItems (depth : Nat) : List Json → List Char
  | [] => lineStart depth ++ [']']
  | item :: rest =>
      ',' :: lineStart (depth + 1) ++ indented (depth + 1) item
        ++ indentedItems depth rest

/-- The fields after the first, and the end of their object. -/
def indentedFields (depth : Nat) : List (String × Json) → List Char
  | [] => lineStart depth ++ ['}']
  | (key, value) :: rest =>
      ',' :: lineStart (depth + 1) ++ writeText key ++ ':' :: ' ' ::
        indented (depth + 1) value ++ indentedFields depth rest

end

/-- The text of a file that holds a value. -/
def fileText (value : Json) : String :=
  String.ofList (indented 0 value ++ ['\n'])

end LeafPatch.Json
