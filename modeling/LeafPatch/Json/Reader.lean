import LeafPatch.Json.Basic
import LeafPatch.Json.Token

/-!
# Reading JSON

Tokens are read one by one by a machine that keeps the open arrays and objects
on a stack and knows what may come next.  At most 127 of them may be open at a
time.  When a key is given again in an object, the new value takes the place of
the old one.
-/

namespace LeafPatch.Json

/-- How many arrays and objects may be open at the same time. -/
def depthLimit : Nat :=
  127

/-- An open array or object. -/
inductive Frame where
  /-- An array with the items read so far, last first. -/
  | items (read : List Json)
  /-- An object with the fields read so far and the key whose value is read. -/
  | fields (read : List (String × Json)) (key : String)

/-- What may come next. -/
inductive Awaiting where
  /-- A value. -/
  | value
  /-- The first item of an array, or its end. -/
  | firstItem
  /-- The first key of an object, or its end. -/
  | firstKey
  /-- A key of an object with the given fields. -/
  | key (read : List (String × Json))
  /-- The colon after a key of an object with the given fields. -/
  | colon (read : List (String × Json)) (key : String)
  /-- What comes after a value: a comma, the end of what is open, or of the text. -/
  | after (value : Json)

/-- What has been read: the open arrays and objects, innermost first, and what may come next. -/
structure Progress where
  stack : List Frame
  awaiting : Awaiting

namespace Progress

/-- The state at the start of a text. -/
def initial : Progress :=
  ⟨[], .value⟩

/-- What a token that starts a value does. -/
def startValue? (stack : List Frame) : Token → Option Progress
  | .null => some ⟨stack, .after .null⟩
  | .bool value => some ⟨stack, .after (.bool value)⟩
  | .number value => some ⟨stack, .after (.number value)⟩
  | .text value => some ⟨stack, .after (.text value)⟩
  | .openArray =>
      if stack.length < depthLimit then
        some ⟨.items [] :: stack, .firstItem⟩
      else
        none
  | .openObject =>
      if stack.length < depthLimit then
        some ⟨.fields [] "" :: stack, .firstKey⟩
      else
        none
  | _ => none

/-- What a token does. -/
def step? (progress : Progress) (token : Token) : Option Progress :=
  match progress.awaiting, progress.stack, token with
  | .value, stack, token => startValue? stack token
  | .firstItem, .items _ :: stack, .closeArray =>
      some ⟨stack, .after (.array [])⟩
  | .firstItem, stack, token => startValue? stack token
  | .firstKey, .fields _ _ :: stack, .closeObject =>
      some ⟨stack, .after (.object [])⟩
  | .firstKey, .fields read _ :: stack, .text key =>
      some ⟨stack, .colon read key⟩
  | .key read, stack, .text key => some ⟨stack, .colon read key⟩
  | .colon read key, stack, .colon =>
      some ⟨.fields read key :: stack, .value⟩
  | .after value, .items read :: stack, .comma =>
      some ⟨.items (value :: read) :: stack, .value⟩
  | .after value, .items read :: stack, .closeArray =>
      some ⟨stack, .after (.array (value :: read).reverse)⟩
  | .after value, .fields read key :: stack, .comma =>
      some ⟨stack, .key (Keyed.insert key value read)⟩
  | .after value, .fields read key :: stack, .closeObject =>
      some ⟨stack, .after (.object (Keyed.insert key value read))⟩
  | _, _, _ => none

/-- The value read, if the text may end here. -/
def result? (progress : Progress) : Option Json :=
  match progress.awaiting, progress.stack with
  | .after value, [] => some value
  | _, _ => none

end Progress

/-- Reads a value from tokens. -/
def ofTokens? (tokens : List Token) : Option Json := do
  let progress ← tokens.foldlM Progress.step? Progress.initial
  progress.result?

/-- Reads a value from a text that holds nothing else. -/
def ofChars? (text : List Char) : Option Json := do
  let tokens ← Token.cut? text
  ofTokens? tokens

/-- Reads a value from a string that holds nothing else. -/
def parse? (text : String) : Option Json :=
  ofChars? text.toList

end LeafPatch.Json
