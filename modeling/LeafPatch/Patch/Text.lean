import LeafPatch.Document.Json
import LeafPatch.Json.Printer
import LeafPatch.Patch.Basic

/-!
# Written forms of patches

A patch is written as a JSON array of operations or as lines of text.  The
strict JSON form leaves the value of a removal out, as RFC 6902 has it, and the
full form keeps it.  The text form has a line for each operation, coloured or
not, and a last line with the status unless that is clean.

A patch is stored with its status, and its operations with all their fields.
-/

namespace LeafPatch

/-- Which values the JSON form of a patch keeps. -/
inductive PatchFormat where
  /-- All values. -/
  | full
  /-- The values of all operations but removals. -/
  | strict
  deriving DecidableEq

namespace Action

/-- The first character of an operation's line. -/
def marker : Action → Char
  | add => '+'
  | remove => '-'
  | replace => '~'

/-- The terminal control sequence that starts the colour of an action. -/
def color : Action → String
  | add => "\x1b[32m"
  | remove => "\x1b[31m"
  | replace => "\x1b[33m"

/-- The terminal control sequence that ends a colour. -/
def colorEnd : String :=
  "\x1b[0m"

end Action

namespace Operation

/-- The operation as JSON. -/
def toJson (format : PatchFormat) (operation : Operation) : Json :=
  let place :=
    [("op", Json.text operation.action.name),
      ("path", Json.text operation.path)]
  match operation.action, format with
  | .remove, .strict => .object place
  | _, _ => .object (place ++ [("value", operation.value.toJson)])

/-- The operation as it is stored: its fields in the order of their declaration. -/
def stored (operation : Operation) : Json :=
  .object
    [("op", .text operation.action.name),
      ("path", .text operation.path),
      ("value", operation.value.toJson)]

/-- The operation's line, without its end and its colour. -/
def line (operation : Operation) : String :=
  String.singleton operation.action.marker ++ " " ++ operation.path
    ++ " " ++ operation.value.toJson.render

/-- The operation's line with its end and perhaps its colour. -/
def renderLine (colored : Bool) (operation : Operation) : String :=
  if colored then
    operation.action.color ++ operation.line ++ Action.colorEnd ++ "\n"
  else
    operation.line ++ "\n"

end Operation

namespace Patch

/-- The operations as a JSON array. -/
def operationsToJson (format : PatchFormat) (patch : Patch) : Json :=
  .array (patch.operations.map (Operation.toJson format))

/-- The text of the JSON array of operations. -/
def renderJson (format : PatchFormat) (patch : Patch) : String :=
  (patch.operationsToJson format).render

/-- The patch as it is stored, with its operations under the given name. -/
def storedUnder (name : String) (patch : Patch) : Json :=
  .object
    [(name, .array (patch.operations.map Operation.stored)),
      ("status", .text patch.status.name)]

/-- The patch with its status, as JSON. -/
def toJson (patch : Patch) : Json :=
  patch.storedUnder "operations"

/-- The line that shows a status that is not clean. -/
def statusLine (status : Status) : String :=
  if status.isOk then "" else "# status: " ++ status.name ++ "\n"

/-- The text form. -/
def renderText (colored : Bool) (patch : Patch) : String :=
  String.join (patch.operations.map (Operation.renderLine colored))
    ++ statusLine patch.status

end Patch

end LeafPatch
