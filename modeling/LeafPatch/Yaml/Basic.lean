import LeafPatch.Number.Rounding

/-!
# YAML values

What a YAML document says, with anchors, aliases and standard tags resolved.
Keys of mappings can be any values.  Two values are the same key when they are
equal whatever the order of the pairs of their mappings; an integer never equals
a floating-point number.
-/

namespace LeafPatch

/-- A YAML value. -/
inductive Yaml where
  | null
  | bool (value : Bool)
  /-- An integer of at most 64 bits. -/
  | integer (value : Int)
  | float (value : Number)
  | nonFinite (value : NonFinite)
  | text (value : String)
  | sequence (items : List Yaml)
  | mapping (entries : List (Yaml × Yaml))
  /-- A value with a tag that is not a standard one, without its exclamation mark. -/
  | tagged (tag : String) (content : Yaml)

namespace Yaml

instance : Inhabited Yaml :=
  ⟨null⟩

/-- Equality of two values that are not finite: all values that are no numbers are equal. -/
def sameNonFinite : NonFinite → NonFinite → Bool
  | .infinity left, .infinity right => left == right
  | .notANumber, .notANumber => true
  | _, _ => false

mutual

/-- Equality as keys. -/
def sameKey : Yaml → Yaml → Bool
  | null, null => true
  | bool left, bool right => left == right
  | integer left, integer right => left == right
  | float left, float right => left.sameValue right
  | nonFinite left, nonFinite right => sameNonFinite left right
  | text left, text right => left == right
  | sequence left, sequence right => sameItems left right
  | mapping left, mapping right =>
      left.length == right.length && pairsFound left right
  | tagged left content, tagged right other =>
      left == right && sameKey content other
  | _, _ => false

/-- Equality of sequences, item by item. -/
def sameItems : List Yaml → List Yaml → Bool
  | [], [] => true
  | item :: rest, other :: others =>
      sameKey item other && sameItems rest others
  | _, _ => false

/-- Whether every pair has a pair of the same key and value among others. -/
def pairsFound : List (Yaml × Yaml) → List (Yaml × Yaml) → Bool
  | [], _ => true
  | (key, value) :: rest, others =>
      (others.any fun other => sameKey key other.1 && sameKey value other.2)
        && pairsFound rest others

end

/-- Whether no key of some pairs is given twice. -/
def distinctKeys : List (Yaml × Yaml) → Bool
  | [] => true
  | (key, _) :: rest =>
      !(rest.any fun other => sameKey key other.1) && distinctKeys rest

end Yaml

end LeafPatch
