import LeafPatch.Keyed
import LeafPatch.Number.Basic
import LeafPatch.Timestamp.Basic

/-!
# Documents

A document is what a bare-metal service stores about a machine: a tree whose
leaves are scalars, that is numbers, strings and dates, and whose inner nodes
are collections of children under string keys.  An array is a collection as
well, under the keys `"0"`, `"1"` and so on.  Nulls and booleans are kept as
unrecognized values, about which no patch can say anything.

Two documents have the same value when their scalars do, number by number and
whatever the order of the keys of a collection; an array never has the value of
an object.
-/

namespace LeafPatch

/-- A property of a machine that can be compared and written. -/
inductive Scalar where
  | number (value : Number)
  | text (value : String)
  | date (value : Timestamp)
  deriving DecidableEq

/-- A value about which no patch can say anything. -/
inductive Unrecognized where
  | null
  | bool (value : Bool)
  deriving DecidableEq

/-- Whether a collection stands for an array or for an object. -/
inductive CollectionKind where
  | sequence
  | mapping
  deriving DecidableEq

/-- A document. -/
inductive Document where
  | scalar (value : Scalar)
  | unrecognized (value : Unrecognized)
  | collection
      (kind : CollectionKind)
      (entries : List (String × Document))

namespace Scalar

/-- Equality by value. -/
def sameValue : Scalar → Scalar → Bool
  | number left, number right => left.sameValue right
  | text left, text right => left == right
  | date left, date right => left == right
  | _, _ => false

end Scalar

namespace Document

instance : Inhabited Document :=
  ⟨unrecognized .null⟩

/-- A string property. -/
def ofText (value : String) : Document :=
  scalar (.text value)

/-- The string of a string property. -/
def text? : Document → Option String
  | scalar (.text value) => some value
  | _ => none

/-- Whether the document is a scalar. -/
def isScalar : Document → Bool
  | scalar _ => true
  | _ => false

/-- Whether the document is an array or object. -/
def isCollection : Document → Bool
  | collection _ _ => true
  | _ => false

/-- The child under a key; scalars and unrecognized values have no children. -/
def find? (document : Document) (key : String) : Option Document :=
  match document with
  | collection _ entries => Keyed.find? key entries
  | _ => none

/-- The document reached by following keys one after the other. -/
def follow? (document : Document) : List String → Option Document
  | [] => some document
  | key :: rest =>
      match document.find? key with
      | some child => child.follow? rest
      | none => none

mutual

/-- Equality by value. -/
def sameValue : Document → Document → Bool
  | scalar left, scalar right => left.sameValue right
  | unrecognized left, unrecognized right => left == right
  | collection kind entries, collection otherKind others =>
      kind == otherKind
        && entries.length == others.length
        && entriesFound entries others
  | _, _ => false

/-- Whether every entry has an entry of the same key and value among others. -/
def entriesFound :
    List (String × Document) → List (String × Document) → Bool
  | [], _ => true
  | (key, child) :: rest, others =>
      (match Keyed.find? key others with
        | some other => sameValue child other
        | none => false)
        && entriesFound rest others

end

mutual

/-- Whether there is a null or boolean anywhere in the document. -/
def hasUnrecognized : Document → Bool
  | scalar _ => false
  | unrecognized _ => true
  | collection _ entries => anyUnrecognized entries

/-- Whether there is a null or boolean anywhere in the children. -/
def anyUnrecognized : List (String × Document) → Bool
  | [] => false
  | (_, child) :: rest =>
      hasUnrecognized child || anyUnrecognized rest

end

mutual

/-- The scalars of a document with the keys that lead to them, in document order. -/
def leaves : Document → List (List String × Scalar)
  | scalar value => [([], value)]
  | unrecognized _ => []
  | collection _ entries => leavesWithin entries

/-- The scalars of the children. -/
def leavesWithin :
    List (String × Document) → List (List String × Scalar)
  | [] => []
  | (key, child) :: rest =>
      (leaves child).map (fun leaf => (key :: leaf.1, leaf.2))
        ++ leavesWithin rest

end

end Document

end LeafPatch
