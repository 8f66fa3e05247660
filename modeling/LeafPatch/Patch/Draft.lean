import LeafPatch.Options
import LeafPatch.Patch.Change

/-!
# Drafts of patches

A patch can be put together from several comparisons, each at a place of its
own.  A draft appends what each of them finds and keeps the most severe status.
The patch between two documents is the draft of their one comparison.
-/

namespace LeafPatch

/-- The operation that a change is when its keys are followed from a pointer. -/
def Change.locate
    (style : Pointer.Style)
    (path : String)
    (change : Change) :
    Operation :=
  ⟨change.action, Pointer.descend style path change.keys,
    .scalar change.value⟩

/-- A patch in the making and how its pointers are written. -/
structure Draft where
  pointerStyle : Pointer.Style
  patch : Patch

namespace Draft

/-- Nothing recorded yet. -/
def empty (style : Pointer.Style) : Draft :=
  ⟨style, Patch.empty⟩

/-- Appends changes at a place, and takes up their status. -/
def record
    (draft : Draft)
    (path : String)
    (changes : List Change)
    (status : Status) :
    Draft :=
  { draft with
    patch :=
      { operations :=
          draft.patch.operations
            ++ changes.map (Change.locate draft.pointerStyle path)
        status := draft.patch.status.merge status } }

/-- Records what leads from a document to another. -/
def compare
    (draft : Draft)
    (source target : Document)
    (path : String) :
    Draft :=
  draft.record path
    (source.changes target) (source.comparisonStatus target)

/-- Records the addition of every leaf of a document. -/
def addSubtree (draft : Draft) (document : Document) (path : String) : Draft :=
  draft.record path (document.onLeaves .add) document.expansionStatus

/-- Records the removal of every leaf of a document. -/
def removeSubtree
    (draft : Draft)
    (document : Document)
    (path : String) :
    Draft :=
  draft.record path (document.onLeaves .remove) document.expansionStatus

end Draft

/-- The patch that leads from a document to another. -/
def Document.patchTo
    (source target : Document)
    (options : Options) :
    Patch :=
  ((Draft.empty options.pointerStyle).compare
    source target options.basePath).patch

end LeafPatch
