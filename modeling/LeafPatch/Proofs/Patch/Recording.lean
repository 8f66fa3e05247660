import LeafPatch.Patch.Draft
import LeafPatch.Proofs.Document.Place

/-!
# Recording as the walk goes

A draft says what a comparison adds to it: changes that do not depend on the
draft, each at its place.  The same draft comes about step by step.  A walk that
carries the draft along, and the pointer of where it has got to, pushes each
operation when it comes to the leaf and takes each status up when it comes to
the value.

The two agree by induction over the first document, and the statement of the
induction is general in the draft and in the pointer.  That is why a run of
several requests on one draft is nothing but what each of them records alone,
one after the other.
-/

namespace LeafPatch

theorem Status.code_merge
    (left right : Status) :
    (left.merge right).code = max left.code right.code := by
  cases left <;> cases right <;> rfl

/-- The operation as it is when its pointer starts where another one leads. -/
def Operation.startingAt (path : String) (operation : Operation) : Operation :=
  { operation with path := path ++ operation.path }

namespace Draft

/-! ## The walk that carries the draft -/

/-- Records one operation. -/
def push
    (draft : Draft)
    (action : Action)
    (path : String)
    (value : Scalar) :
    Draft :=
  { draft with
    patch :=
      { draft.patch with
        operations :=
          draft.patch.operations ++ [⟨action, path, .scalar value⟩] } }

/-- Takes a status up. -/
def escalate (draft : Draft) (status : Status) : Draft :=
  { draft with
    patch := { draft.patch with status := draft.patch.status.merge status } }

mutual

/-- Walks a document and records the same action on each leaf. -/
def expand (action : Action) :
    Draft → Document → String → Draft
  | draft, .scalar value, path => draft.push action path value
  | draft, .unrecognized _, _ => draft.escalate .unknownType
  | draft, .collection _ entries, path => expandWithin action draft entries path

/-- Walks children and records the same action on each leaf. -/
def expandWithin (action : Action) :
    Draft → List (String × Document) → String → Draft
  | draft, [], _ => draft
  | draft, (key, child) :: rest, path =>
      expandWithin action
        (expand action draft child (Pointer.child draft.pointerStyle path key))
        rest path

end

/-- Walks the children whose keys are not in other entries and records their addition. -/
def expandMissing (before : List (String × Document)) :
    Draft → List (String × Document) → String → Draft
  | draft, [], _ => draft
  | draft, (key, child) :: rest, path =>
      expandMissing before
        (if Keyed.contains key before then
          draft
        else
          draft.expand .add child (Pointer.child draft.pointerStyle path key))
        rest path

mutual

/-- Walks two documents side by side and records what leads from one to the other. -/
def walk : Draft → Document → Document → String → Draft
  | draft, .scalar old, .scalar new, path =>
      if old.sameValue new then draft else draft.push .replace path new
  | draft, .collection _ before, .collection _ after, path =>
      expandMissing before (walkWithin draft before after path) after path
  | draft, .scalar old, .collection kind after, path =>
      (draft.expand .remove (.scalar old) path).expand .add
        (.collection kind after) path
  | draft, .collection kind before, .scalar new, path =>
      (draft.expand .remove (.collection kind before) path).expand .add
        (.scalar new) path
  | draft, _, _, _ => draft.escalate .error

/-- Walks children that are there before and records what happens to them. -/
def walkWithin :
    Draft →
      List (String × Document) → List (String × Document) → String → Draft
  | draft, [], _, _ => draft
  | draft, (key, child) :: rest, after, path =>
      walkWithin
        (match Keyed.find? key after with
          | some other =>
              walk draft child other (Pointer.child draft.pointerStyle path key)
          | none =>
              draft.expand .remove child
                (Pointer.child draft.pointerStyle path key))
        rest after path

end

/-! ## Laws of recording -/

@[ext]
theorem ext
    {left right : Draft}
    (sameStyle : left.pointerStyle = right.pointerStyle)
    (sameOperations : left.patch.operations = right.patch.operations)
    (sameStatus : left.patch.status = right.patch.status) :
    left = right := by
  rcases left with ⟨style, operations, status⟩
  rcases right with ⟨otherStyle, otherOperations, otherStatus⟩
  cases sameStyle
  cases sameOperations
  cases sameStatus
  rfl

section Record

variable
    (draft : Draft)
    (path : String)
    (changes : List Change)
    (status : Status)

@[simp]
theorem pointerStyle_record :
    (draft.record path changes status).pointerStyle = draft.pointerStyle :=
  rfl

@[simp]
theorem operations_record :
    (draft.record path changes status).patch.operations =
      draft.patch.operations
        ++ changes.map (Change.locate draft.pointerStyle path) :=
  rfl

@[simp]
theorem status_record :
    (draft.record path changes status).patch.status =
      draft.patch.status.merge status :=
  rfl

@[simp]
theorem record_nil_ok : draft.record path [] .ok = draft := by
  ext <;> simp

theorem escalate_eq_record : draft.escalate status = draft.record path [] status := by
  ext <;> simp [escalate]

theorem push_eq_record (action : Action) (value : Scalar) :
    draft.push action path value =
      draft.record path [⟨action, [], value⟩] .ok := by
  ext <;> simp [push, Change.locate]

/-- What is recorded twice at one place is recorded once. -/
theorem record_record (others : List Change) (another : Status) :
    (draft.record path changes status).record path others another =
      draft.record path (changes ++ others) (status.merge another) := by
  ext
  · rfl
  · simp
  · simp [Status.merge_assoc]

/-- At the place of a child the same is recorded as from one level further up. -/
theorem record_child (key : String) :
    draft.record (Pointer.child draft.pointerStyle path key) changes status =
      draft.record path (changes.map (Change.under key)) status := by
  ext
  · rfl
  · simp only [operations_record, List.map_map]
    rfl
  · rfl

end Record

/-! ## The walk records what the comparison says -/

theorem merge_unknownType (first second : Bool) :
    Status.merge (if first then .unknownType else .ok)
        (if second then .unknownType else .ok) =
      if first || second then .unknownType else .ok := by
  cases first <;> cases second <;> rfl

theorem expandWithin_eq_record
    {action : Action}
    {entries : List (String × Document)}
    (children :
      ∀ key child, (key, child) ∈ entries → ∀ (draft : Draft) path,
        draft.expand action child path =
          draft.record path (child.onLeaves action) child.expansionStatus)
    (draft : Draft)
    (path : String) :
    expandWithin action draft entries path =
      draft.record path
        ((Document.leavesWithin entries).map (Change.ofLeaf action))
        (if Document.anyUnrecognized entries then .unknownType else .ok) := by
  induction entries generalizing draft with
  | nil => simp [expandWithin, Document.leavesWithin, Document.anyUnrecognized]
  | cons entry rest ih =>
      rcases entry with ⟨key, child⟩
      have later (draft : Draft) :=
        ih
          (fun name inner member =>
            children name inner (List.mem_cons_of_mem _ member))
          draft
      rw [expandWithin, later, children key child List.mem_cons_self,
        record_child, record_record, Document.leavesWithin,
        Document.anyUnrecognized, ← merge_unknownType, List.map_append,
        Document.onLeaves, List.map_map, List.map_map]
      rfl

/-- Walking a document records its leaves and, if anything in it is unrecognized, that. -/
theorem expand_eq_record
    (draft : Draft)
    (action : Action)
    (document : Document)
    (path : String) :
    draft.expand action document path =
      draft.record path (document.onLeaves action)
        document.expansionStatus := by
  induction document generalizing draft path with
  | scalar value => exact push_eq_record draft path action value
  | unrecognized value => exact escalate_eq_record draft path .unknownType
  | collection kind entries ih =>
      rw [expand, expandWithin_eq_record]
      · rfl
      · intro key child member draft path
        exact ih key child member draft path

theorem expandMissing_eq_record
    (draft : Draft)
    (before after : List (String × Document))
    (path : String) :
    expandMissing before draft after path =
      draft.record path (Document.additions before after)
        (Document.additionsStatus before after) := by
  induction after generalizing draft with
  | nil => exact (record_nil_ok draft path).symm
  | cons entry rest ih =>
      rcases entry with ⟨key, child⟩
      have additions :
          Document.additions before ((key, child) :: rest) =
            (if Keyed.contains key before then
              []
            else
              (child.onLeaves .add).map (Change.under key))
            ++ Document.additions before rest :=
        List.flatMap_cons
      rw [expandMissing, ih, additions, Document.additionsStatus]
      by_cases present : Keyed.contains key before = true
      · simp only [present, if_true, List.nil_append, Status.ok_merge]
      · simp only [present, Bool.false_eq_true, if_false, expand_eq_record,
          record_child, record_record]

theorem walkWithin_eq_record
    {before : List (String × Document)}
    (children :
      ∀ key child, (key, child) ∈ before → ∀ (draft : Draft) other path,
        draft.walk child other path = draft.compare child other path)
    (draft : Draft)
    (after : List (String × Document))
    (path : String) :
    walkWithin draft before after path =
      draft.record path (Document.changesWithin before after)
        (Document.comparisonStatusWithin before after) := by
  induction before generalizing draft with
  | nil => exact (record_nil_ok draft path).symm
  | cons entry rest ih =>
      rcases entry with ⟨key, child⟩
      have later (draft : Draft) :=
        ih
          (fun name inner member =>
            children name inner (List.mem_cons_of_mem _ member))
          draft
      rw [walkWithin, later, Document.changesWithin,
        Document.comparisonStatusWithin]
      cases Keyed.find? key after with
      | some other =>
          dsimp only
          rw [children key child List.mem_cons_self, compare, record_child,
            record_record]
      | none =>
          dsimp only
          rw [expand_eq_record, record_child, record_record]

/-- Walking two documents records what leads from one to the other. -/
theorem walk_eq_compare
    (draft : Draft)
    (source target : Document)
    (path : String) :
    draft.walk source target path = draft.compare source target path := by
  induction source generalizing draft target path with
  | scalar old =>
      cases target with
      | scalar new =>
          rw [walk, compare, Document.changes, Document.comparisonStatus]
          split
          · exact (record_nil_ok draft path).symm
          · exact push_eq_record draft path .replace new
      | unrecognized new => exact escalate_eq_record draft path .error
      | collection kind after =>
          rw [walk, expand_eq_record, expand_eq_record, record_record]
          rfl
  | unrecognized old =>
      cases target <;> exact escalate_eq_record draft path .error
  | collection kind before ih =>
      cases target with
      | scalar new =>
          rw [walk, expand_eq_record, expand_eq_record, record_record, compare,
            Document.changes, Document.comparisonStatus]
          exact congrArg _ (Status.merge_ok _)
      | unrecognized new => exact escalate_eq_record draft path .error
      | collection otherKind after =>
          rw [walk, walkWithin_eq_record, expandMissing_eq_record,
            record_record]
          · rfl
          · intro key child member draft other path
            exact ih key child member draft other path

/-! ## Requests, one after the other -/

/-- What can be asked of a draft. -/
inductive Request where
  | compare (source target : Document)
  | add (document : Document)
  | remove (document : Document)

/-- Records what a request finds at a place. -/
def perform (draft : Draft) (request : Request) (path : String) : Draft :=
  match request with
  | .compare source target => draft.compare source target path
  | .add document => draft.addSubtree document path
  | .remove document => draft.removeSubtree document path

/-- Walks for a request from a place, and records what it comes to. -/
def walkFor (draft : Draft) (request : Request) (path : String) : Draft :=
  match request with
  | .compare source target => draft.walk source target path
  | .add document => draft.expand .add document path
  | .remove document => draft.expand .remove document path

/-- Answers requests, each at its own place, one after the other. -/
def performAll (draft : Draft) (requests : List (Request × String)) : Draft :=
  requests.foldl (fun draft request => draft.perform request.1 request.2) draft

/-- Walks for requests, each from its own place, one after the other. -/
def walkForAll (draft : Draft) (requests : List (Request × String)) : Draft :=
  requests.foldl (fun draft request => draft.walkFor request.1 request.2) draft

/-- The changes that a request finds. -/
def Request.changes : Request → List Change
  | compare source target => source.changes target
  | add document => document.onLeaves .add
  | remove document => document.onLeaves .remove

/-- The status that a request finds. -/
def Request.status : Request → Status
  | compare source target => source.comparisonStatus target
  | add document => document.expansionStatus
  | remove document => document.expansionStatus

theorem perform_eq_record (draft : Draft) (request : Request) (path : String) :
    draft.perform request path =
      draft.record path request.changes request.status := by
  cases request <;> rfl

theorem walkFor_eq_perform (draft : Draft) (request : Request) (path : String) :
    draft.walkFor request path = draft.perform request path := by
  cases request with
  | compare source target => exact walk_eq_compare draft source target path
  | add document => exact expand_eq_record draft .add document path
  | remove document => exact expand_eq_record draft .remove document path

theorem walkForAll_eq_performAll
    (draft : Draft)
    (requests : List (Request × String)) :
    draft.walkForAll requests = draft.performAll requests := by
  simp only [walkForAll, performAll, walkFor_eq_perform]

/-! ## What a request records alone -/

/-- The patch that a request comes to on a draft of its own. -/
def Request.patch
    (request : Request)
    (style : Pointer.Style)
    (path : String) :
    Patch :=
  ((empty style).perform request path).patch

theorem operations_patch
    (request : Request)
    (style : Pointer.Style)
    (path : String) :
    (request.patch style path).operations =
      request.changes.map (Change.locate style path) := by
  rw [Request.patch, perform_eq_record]
  rfl

theorem status_patch
    (request : Request)
    (style : Pointer.Style)
    (path : String) :
    (request.patch style path).status = request.status := by
  rw [Request.patch, perform_eq_record]
  exact Status.ok_merge _

/-- One request appends to any draft what it records alone. -/
theorem perform_appends (draft : Draft) (request : Request) (path : String) :
    (draft.perform request path).pointerStyle = draft.pointerStyle
      ∧ (draft.perform request path).patch.operations =
          draft.patch.operations
            ++ (request.patch draft.pointerStyle path).operations
      ∧ (draft.perform request path).patch.status =
          draft.patch.status.merge
            (request.patch draft.pointerStyle path).status := by
  rw [operations_patch, status_patch, perform_eq_record]
  exact ⟨rfl, rfl, rfl⟩

/-- Requests append to any draft what each of them records alone. -/
theorem performAll_appends (draft : Draft) (requests : List (Request × String)) :
    (draft.performAll requests).pointerStyle = draft.pointerStyle
      ∧ (draft.performAll requests).patch.operations =
          draft.patch.operations
            ++ requests.flatMap (fun request =>
              (request.1.patch draft.pointerStyle request.2).operations)
      ∧ (draft.performAll requests).patch.status =
          requests.foldl
            (fun status request =>
              status.merge (request.1.patch draft.pointerStyle request.2).status)
            draft.patch.status := by
  induction requests generalizing draft with
  | nil => exact ⟨rfl, (List.append_nil _).symm, rfl⟩
  | cons request rest ih =>
      rcases perform_appends draft request.1 request.2 with
        ⟨style, operations, status⟩
      rcases ih (draft.perform request.1 request.2) with
        ⟨laterStyle, laterOperations, laterStatus⟩
      rw [style] at laterStyle laterOperations laterStatus
      rw [operations, List.append_assoc] at laterOperations
      rw [status] at laterStatus
      exact ⟨laterStyle, laterOperations, laterStatus⟩

theorem locate_eq_startingAt
    (style : Pointer.Style)
    (path : String)
    (change : Change) :
    change.locate style path = (change.locate style "").startingAt path := by
  have sameBase : path ++ "" = path := String.append_empty
  have sameDescent := Pointer.descend_append_base style path "" change.keys
  rw [sameBase] at sameDescent
  rw [Change.locate, sameDescent]
  rfl

/-- Where a request is answered only shows as the start of each pointer. -/
theorem patch_eq_startingAt
    (request : Request)
    (style : Pointer.Style)
    (path : String) :
    (request.patch style path).operations =
        (request.patch style "").operations.map (Operation.startingAt path)
      ∧ (request.patch style path).status = (request.patch style "").status := by
  constructor
  · rw [operations_patch, operations_patch, List.map_map]
    apply List.map_congr_left
    intro change _
    exact locate_eq_startingAt style path change
  · rw [status_patch, status_patch]

/--
A run of requests on one draft, which walks as it records, is a row of patches
that do not depend on each other, nor on where each of them is placed.
-/
theorem performAll_independent
    (style : Pointer.Style)
    (requests : List (Request × String)) :
    let run (requests : List (Request × String)) :=
      ((empty style).performAll requests).patch
    (run requests).operations =
        requests.flatMap (fun request =>
          (request.1.patch style request.2).operations)
      ∧ (run requests).status =
          requests.foldl
            (fun status request =>
              status.merge (request.1.patch style request.2).status)
            .ok
      ∧ (empty style).walkForAll requests = (empty style).performAll requests
      ∧ ∀ request path,
          let before := run requests
          let after := run (requests ++ [(request, path)])
          let alone := request.patch style path
          let atRoot := request.patch style ""
          after.operations = before.operations ++ alone.operations
            ∧ after.status.code = max before.status.code alone.status.code
            ∧ before.status.code ≤ after.status.code
            ∧ alone.operations =
                atRoot.operations.map (Operation.startingAt path)
            ∧ alone.status = atRoot.status := by
  intro run
  rcases performAll_appends (empty style) requests with
    ⟨sameStyle, operations, status⟩
  refine
    ⟨operations, status, walkForAll_eq_performAll (empty style) requests, ?_⟩
  intro request path before after alone atRoot
  rcases perform_appends ((empty style).performAll requests) request path with
    ⟨-, appended, merged⟩
  rw [sameStyle] at appended merged
  have last :
      after =
        (((empty style).performAll requests).perform request path).patch := by
    show ((empty style).performAll (requests ++ [(request, path)])).patch = _
    rw [performAll, List.foldl_append]
    rfl
  have severity : after.status.code = max before.status.code alone.status.code := by
    rw [last, merged]
    exact Status.code_merge _ _
  rcases patch_eq_startingAt request style path with ⟨moved, sameStatus⟩
  refine ⟨?_, severity, ?_, moved, sameStatus⟩
  · rw [last, appended]
    rfl
  · rw [severity]
    exact Nat.le_max_left _ _

/--
The status is that of a null once this has been met, and stays so; the patch goes
on.
-/
theorem performAll_independent_nullMet :
    let before : Document := .collection .mapping [("a", .ofText "x")]
    let after : Document := .collection .mapping [("a", .ofText "y")]
    let withNull : Document :=
      .collection .mapping [("b", .ofText "z"), ("n", .unrecognized .null)]
    let run (requests : List (Request × String)) :=
      ((empty .escaped).performAll requests).patch
    let comparison : Request × String := (.compare before after, "/old")
    let addition : Request × String := (.add withNull, "/new")
    let removal : Request × String := (.remove before, "/old/twin")
    (run [comparison]).status = .ok
      ∧ (run [comparison, addition]).status = .unknownType
      ∧ (run [comparison, addition, removal]).status = .unknownType
      ∧ (run [comparison, addition, removal]).operations =
          [⟨.replace, "/old/a", .ofText "y"⟩, ⟨.add, "/new/b", .ofText "z"⟩,
            ⟨.remove, "/old/twin/a", .ofText "x"⟩] := by
  intro before after withNull run comparison addition removal
  rcases performAll_independent .escaped [comparison] with ⟨-, clean, -, -⟩
  rcases performAll_independent .escaped [comparison, addition] with
    ⟨-, risen, -, -⟩
  rcases performAll_independent .escaped [comparison, addition, removal] with
    ⟨operations, stays, -, -⟩
  exact ⟨clean, risen, stays, operations⟩

end Draft

end LeafPatch
