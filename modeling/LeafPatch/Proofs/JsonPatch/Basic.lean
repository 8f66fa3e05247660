import LeafPatch.Json.Basic
import LeafPatch.Proofs.Pointer.Decoding

/-!
# Applying patches as RFC 6902 has it

A patch document is an array of operation objects, which are applied one after
the other.  An operation follows its pointer down to the container of its place
and acts on the child there.  In an object the last token is a key.  In an array
it is an index: a removal moves all later items up, and an addition moves them
down or, right behind the last item, appends.

An operation on a place that is not there is an error, and with one error the
whole patch fails.  Only additions, removals and replacements are read.
-/

namespace LeafPatch.JsonPatch

/-! ## Children of containers -/

/-- The index that a token spells: decimal digits without superfluous zeros. -/
def index? (token : String) : Option Nat :=
  let index := Nat.ofDigitChars 10 token.toList 0
  if toString index = token then some index else none

theorem index?_toString (index : Nat) :
    index? (toString index) = some index := by
  have digits : Nat.ofDigitChars 10 (toString index).toList 0 = index := by
    rw [Nat.toString_eq_repr, Nat.toList_repr, Nat.ofDigitChars_ten_toDigits]
  rw [index?, digits]
  exact if_pos rfl

/-- The child that a token names. -/
def child? (token : String) : Json → Option Json
  | .array items => (index? token).bind fun index => items[index]?
  | .object fields => Keyed.find? token fields
  | _ => none

/-- Puts a value in the place of a child that is there. -/
def setChild? (token : String) (value : Json) : Json → Option Json
  | .array items =>
      (index? token).bind fun index =>
        if index < items.length then
          some (.array (items.set index value))
        else
          none
  | .object fields =>
      if Keyed.contains token fields then
        some (.object (Keyed.insert token value fields))
      else
        none
  | _ => none

/-- Adds a child: a field, or an item before that of its index or at the end. -/
def addChild? (token : String) (value : Json) : Json → Option Json
  | .array items =>
      if token = "-" then
        some (.array (items ++ [value]))
      else
        (index? token).bind fun index =>
          if index ≤ items.length then
            some (.array (items.insertIdx index value))
          else
            none
  | .object fields => some (.object (Keyed.insert token value fields))
  | _ => none

/-- Removes a child that is there. -/
def removeChild? (token : String) : Json → Option Json
  | .array items =>
      (index? token).bind fun index =>
        if index < items.length then
          some (.array (items.eraseIdx index))
        else
          none
  | .object fields =>
      if Keyed.contains token fields then
        some (.object (fields.eraseP fun field => field.1 = token))
      else
        none
  | _ => none

/-! ## Operations -/

/-- What an operation does at its place. -/
inductive Edit where
  | add (value : Json)
  | remove
  | replace (value : Json)

namespace Edit

/-- What an operation makes of a whole document, if it leaves one. -/
def atRoot? : Edit → Option Json
  | add value => some value
  | remove => none
  | replace value => some value

/-- Acts on a child of a container. -/
def atChild? : Edit → String → Json → Option Json
  | add value, token, json => addChild? token value json
  | remove, token, json => removeChild? token json
  | replace value, token, json => setChild? token value json

/-- Acts on the place to which keys lead. -/
def applyAt? (edit : Edit) : List String → Json → Option Json
  | [], _ => edit.atRoot?
  | [key], json => edit.atChild? key json
  | key :: next :: rest, json =>
      (child? key json).bind fun child =>
        (edit.applyAt? (next :: rest) child).bind fun edited =>
          setChild? key edited json

/-- What the members of an operation object say is to be done. -/
def ofMembers? (members : List (String × Json)) : Option Edit :=
  match Keyed.find? "op" members, Keyed.find? "value" members with
  | some (.text "add"), some value => some (add value)
  | some (.text "remove"), _ => some remove
  | some (.text "replace"), some value => some (replace value)
  | _, _ => none

end Edit

/-- Applies one operation object. -/
def step? (json : Json) : Json → Option Json
  | .object members =>
      match Keyed.find? "path" members with
      | some (.text path) =>
          (Edit.ofMembers? members).bind fun edit =>
            (Pointer.keys? .escaped path).bind fun keys =>
              edit.applyAt? keys json
      | _ => none
  | _ => none

/-- Applies a patch document; nothing if any of its operations fails. -/
def applyPatch? (patch json : Json) : Option Json :=
  match patch with
  | .array operations => operations.foldlM step? json
  | _ => none

end LeafPatch.JsonPatch
