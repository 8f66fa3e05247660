import LeafPatch.Document.Basic

/-!
# Collections

A collection on its own: the kind of container it stands for and its entries in
the order of their first insertion.  Inserting under a key that is there already
replaces the child and keeps its place; the kind never changes.
-/

namespace LeafPatch

/-- The children of an array or object. -/
structure Collection where
  kind : CollectionKind
  entries : List (String × Document)

namespace Collection

/-- An object without fields. -/
def empty : Collection :=
  ⟨.mapping, []⟩

instance : Inhabited Collection :=
  ⟨empty⟩

/-- The array of some items, each under its index. -/
def sequence (items : List Document) : Collection :=
  ⟨.sequence, Keyed.indexed 0 items⟩

/-- The object of some fields, given one after the other. -/
def ofPairs (pairs : List (String × Document)) : Collection :=
  ⟨.mapping, Keyed.ofPairs pairs⟩

/-- The collection as a document. -/
def toDocument (collection : Collection) : Document :=
  .collection collection.kind collection.entries

/-- The children of a document, if it is an array or object. -/
def ofDocument? : Document → Option Collection
  | .collection kind entries => some ⟨kind, entries⟩
  | _ => none

/-- The child under a key. -/
def find? (collection : Collection) (key : String) : Option Document :=
  Keyed.find? key collection.entries

/-- Whether there is a child under the key. -/
def contains (collection : Collection) (key : String) : Bool :=
  Keyed.contains key collection.entries

/-- The keys, in order. -/
def keys (collection : Collection) : List String :=
  Keyed.keys collection.entries

/-- The number of children. -/
def size (collection : Collection) : Nat :=
  collection.entries.length

/-- Whether there are no children. -/
def isEmpty (collection : Collection) : Bool :=
  collection.entries.isEmpty

/-- Puts a child under a key. -/
def insert
    (collection : Collection)
    (key : String)
    (child : Document) :
    Collection :=
  { collection with entries := Keyed.insert key child collection.entries }

/-- Puts another child under a key that is there; otherwise nothing changes. -/
def assign
    (collection : Collection)
    (key : String)
    (child : Document) :
    Collection :=
  if collection.contains key then collection.insert key child else collection

@[simp]
theorem kind_insert
    (collection : Collection)
    (key : String)
    (child : Document) :
    (collection.insert key child).kind = collection.kind :=
  rfl

theorem find?_insert
    (collection : Collection)
    (key name : String)
    (child : Document) :
    (collection.insert name child).find? key =
      if name = key then some child else collection.find? key :=
  Keyed.find?_insert key name child collection.entries

end Collection

end LeafPatch
