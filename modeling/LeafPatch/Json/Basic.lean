import LeafPatch.Json.Numeral
import LeafPatch.Keyed

/-!
# JSON values

Objects keep the order of their fields.  A reader gives every object distinct
keys; the type itself does not insist on it.
-/

namespace LeafPatch

/-- A JSON value. -/
inductive Json where
  | null
  | bool (value : Bool)
  | number (value : Numeral)
  | text (value : String)
  | array (items : List Json)
  | object (fields : List (String × Json))

namespace Json

instance : Inhabited Json :=
  ⟨null⟩

end Json

end LeafPatch
