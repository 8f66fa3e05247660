/-!
# Status of a patch

How faithfully a patch says what differs.  Statuses are ordered by severity, and
a run over two documents ends with the most severe one that it met.
-/

namespace LeafPatch

/-- How faithfully a patch says what differs. -/
inductive Status where
  /-- Every difference is in the patch. -/
  | ok
  /-- Two values in the same place could not be compared. -/
  | error
  /-- A value of unrecognized type was to be added or removed. -/
  | unknownType
  deriving DecidableEq, Inhabited

namespace Status

/-- The severity. -/
def code : Status → Nat
  | ok => 0
  | error => 1
  | unknownType => 2

/-- The name under which a status is shown and stored. -/
def name : Status → String
  | ok => "OK"
  | error => "ERROR"
  | unknownType => "UNKNOWN_TYPE"

/-- All statuses, least severe first. -/
def all : List Status :=
  [ok, error, unknownType]

/-- Whether nothing was left out. -/
def isOk (status : Status) : Bool :=
  status == ok

/-- The more severe of two statuses. -/
def merge (left right : Status) : Status :=
  if left.code ≤ right.code then right else left

/-- Order by severity. -/
def order (left right : Status) : Ordering :=
  compare left.code right.code

@[simp]
theorem ok_merge (status : Status) : merge ok status = status := by
  cases status <;> rfl

@[simp]
theorem merge_ok (status : Status) : merge status ok = status := by
  cases status <;> rfl

theorem merge_assoc (first second third : Status) :
    merge (merge first second) third =
      merge first (merge second third) := by
  cases first <;> cases second <;> cases third <;> rfl

@[simp]
theorem merge_self (status : Status) : merge status status = status := by
  cases status <;> rfl

@[simp]
theorem merge_eq_ok_iff (left right : Status) :
    merge left right = ok ↔ left = ok ∧ right = ok := by
  cases left <;> cases right <;> decide

end Status

end LeafPatch
