import LeafPatch.Patch.Basic

/-!
# Changes between documents

Two documents are walked side by side.  Where both are scalars of different
value, the leaf is replaced.  Where both are collections, the children of the
first are compared with those of the second under the same keys or removed, in
the order of the first, and then those that only the second has are added, in
its order.  Where one is a scalar and the other a collection, all leaves of the
first are removed before all leaves of the second are added.  An unrecognized
value stops the walk at its place.

What the walk finds is a list of changes to leaves, each placed by the keys that
lead there, and a status.  How places are written as pointers is left to
`Change.locate`.
-/

namespace LeafPatch

/-- What happens to the leaf to which some keys lead. -/
structure Change where
  action : Action
  keys : List String
  value : Scalar
  deriving DecidableEq

namespace Change

/-- The change seen from one level further up. -/
def under (key : String) (change : Change) : Change :=
  { change with keys := key :: change.keys }

/-- The change that does the same to each of some leaves. -/
def ofLeaf (action : Action) (leaf : List String × Scalar) : Change :=
  ⟨action, leaf.1, leaf.2⟩

end Change

namespace Document

/-- The same action on every leaf of a document. -/
def onLeaves (action : Action) (document : Document) : List Change :=
  document.leaves.map (Change.ofLeaf action)

/-- The status of adding or removing a whole document. -/
def expansionStatus (document : Document) : Status :=
  if document.hasUnrecognized then .unknownType else .ok

/-- The additions for the children whose keys are not in other entries. -/
def additions (before after : List (String × Document)) : List Change :=
  after.flatMap fun entry =>
    if Keyed.contains entry.1 before then
      []
    else
      (onLeaves .add entry.2).map (Change.under entry.1)

/-- The status of the additions. -/
def additionsStatus (before : List (String × Document)) :
    List (String × Document) → Status
  | [] => .ok
  | (key, child) :: rest =>
      Status.merge
        (if Keyed.contains key before then .ok else expansionStatus child)
        (additionsStatus before rest)

mutual

/-- The changes that lead from a document to another. -/
def changes : Document → Document → List Change
  | scalar old, scalar new =>
      if old.sameValue new then [] else [⟨.replace, [], new⟩]
  | collection _ before, collection _ after =>
      changesWithin before after ++ additions before after
  | scalar old, collection kind after =>
      onLeaves .remove (scalar old) ++ onLeaves .add (collection kind after)
  | collection kind before, scalar new =>
      onLeaves .remove (collection kind before) ++ onLeaves .add (scalar new)
  | _, _ => []

/-- The changes to children that are there before. -/
def changesWithin :
    List (String × Document) → List (String × Document) → List Change
  | [], _ => []
  | (key, child) :: rest, after =>
      (match Keyed.find? key after with
        | some other => changes child other
        | none => onLeaves .remove child).map (Change.under key)
        ++ changesWithin rest after

end

mutual

/-- How faithfully the changes say what differs. -/
def comparisonStatus : Document → Document → Status
  | scalar _, scalar _ => .ok
  | collection _ before, collection _ after =>
      Status.merge
        (comparisonStatusWithin before after)
        (additionsStatus before after)
  | scalar _, collection kind after =>
      expansionStatus (collection kind after)
  | collection kind before, scalar _ =>
      expansionStatus (collection kind before)
  | _, _ => .error

/-- How faithfully the changes to children that are there before say what differs. -/
def comparisonStatusWithin :
    List (String × Document) → List (String × Document) → Status
  | [], _ => .ok
  | (key, child) :: rest, after =>
      Status.merge
        (match Keyed.find? key after with
          | some other => comparisonStatus child other
          | none => expansionStatus child)
        (comparisonStatusWithin rest after)

end

end Document

end LeafPatch
