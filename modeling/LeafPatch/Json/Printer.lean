import LeafPatch.Json.Basic

/-!
# Written form of JSON values

Values are written without any blanks and fields in their order.  In strings
only the quote, the backslash and the control characters below the space are
escaped, five of them by a letter and the others by four lower-case hexadecimal
digits.  So the written form of a value has no line break in it.
-/

namespace LeafPatch.Json

/-- The lower-case hexadecimal digit of a value below sixteen. -/
def hexDigit (value : Nat) : Char :=
  Nat.digitChar (value % 16)

/-- The written form of a character within a string. -/
def writeChar (character : Char) : List Char :=
  match character with
  | '"' => ['\\', '"']
  | '\\' => ['\\', '\\']
  | '\n' => ['\\', 'n']
  | '\r' => ['\\', 'r']
  | '\t' => ['\\', 't']
  | '\x08' => ['\\', 'b']
  | '\x0c' => ['\\', 'f']
  | character =>
      if character.toNat < 32 then
        ['\\', 'u', '0', '0',
          hexDigit (character.toNat / 16), hexDigit character.toNat]
      else
        [character]

/-- The written form of a string. -/
def writeText (text : String) : List Char :=
  '"' :: text.toList.flatMap writeChar ++ ['"']

mutual

/-- The written form of a value. -/
def write : Json → List Char
  | null => "null".toList
  | bool true => "true".toList
  | bool false => "false".toList
  | number value => value.write
  | text value => writeText value
  | array [] => ['[', ']']
  | array (item :: rest) => '[' :: write item ++ writeItems rest
  | object [] => ['{', '}']
  | object ((key, value) :: rest) =>
      '{' :: writeText key ++ ':' :: write value ++ writeFields rest

/-- The written form of the items after the first, and the end of their array. -/
def writeItems : List Json → List Char
  | [] => [']']
  | item :: rest => ',' :: write item ++ writeItems rest

/-- The written form of the fields after the first, and the end of their object. -/
def writeFields : List (String × Json) → List Char
  | [] => ['}']
  | (key, value) :: rest =>
      ',' :: writeText key ++ ':' :: write value ++ writeFields rest

end

/-- The written form of a value, as a string. -/
def render (value : Json) : String :=
  String.ofList value.write

end LeafPatch.Json
