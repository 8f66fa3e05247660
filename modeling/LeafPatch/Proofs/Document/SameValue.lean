import LeafPatch.Document.Basic
import LeafPatch.Proofs.Keyed

/-!
# Equality by value

Scalars of the same value can stand for one another: having the same value is an
equivalence, and so whether two scalars have it does not depend on which of
several equal scalars are taken.  It is not equality, since a zero has the value
of the negative zero.

Two collections have the same value if they are as long as each other and each
entry of the first is found among those of the second.
-/

namespace LeafPatch

namespace Scalar

theorem sameValue_refl (value : Scalar) :
    value.sameValue value = true := by
  cases value <;> simp [sameValue]

theorem sameValue_comm (left right : Scalar) :
    left.sameValue right = right.sameValue left := by
  cases left <;> cases right <;>
    simp only [sameValue, Number.sameValue, Bool.beq_comm]

theorem sameValue_trans
    {first second third : Scalar}
    (before : first.sameValue second = true)
    (after : second.sameValue third = true) :
    first.sameValue third = true := by
  cases first <;> cases second <;> cases third <;>
    simp_all [sameValue]

/-- Scalars of the same value compare alike. -/
theorem sameValue_congr
    {left other right another : Scalar}
    (sameLeft : left.sameValue other = true)
    (sameRight : right.sameValue another = true) :
    left.sameValue right = other.sameValue another := by
  rw [Bool.eq_iff_iff]
  constructor
  · intro same
    rw [sameValue_comm] at sameLeft
    exact sameValue_trans sameLeft (sameValue_trans same sameRight)
  · intro same
    rw [sameValue_comm] at sameRight
    exact sameValue_trans sameLeft (sameValue_trans same sameRight)

/-- The two are equal by value, or both nothing. -/
def SameLeaf : Option Scalar → Option Scalar → Prop
  | none, none => True
  | some left, some right => left.sameValue right = true
  | _, _ => False

theorem SameLeaf.refl (leaf : Option Scalar) : SameLeaf leaf leaf := by
  cases leaf with
  | none => trivial
  | some value => exact sameValue_refl value

theorem SameLeaf.symm
    {first second : Option Scalar}
    (same : SameLeaf first second) :
    SameLeaf second first := by
  cases first <;> cases second <;> simp only [SameLeaf] at same ⊢
  rw [sameValue_comm]
  exact same

theorem SameLeaf.trans
    {first second third : Option Scalar}
    (before : SameLeaf first second)
    (after : SameLeaf second third) :
    SameLeaf first third := by
  cases first <;> cases second <;> cases third <;>
    simp only [SameLeaf] at before after ⊢
  exact sameValue_trans before after

end Scalar

namespace Document

theorem entriesFound_iff
    {entries others : List (String × Document)} :
    entriesFound entries others = true ↔
      ∀ key child, (key, child) ∈ entries →
        ∃ other, Keyed.find? key others = some other
          ∧ child.sameValue other = true := by
  induction entries with
  | nil => simp [entriesFound]
  | cons entry rest ih =>
      rcases entry with ⟨name, first⟩
      have head :
          entriesFound ((name, first) :: rest) others =
            ((Keyed.find? name others).any first.sameValue
              && entriesFound rest others) := by
        rw [entriesFound]
        cases Keyed.find? name others <;> rfl
      rw [head, Bool.and_eq_true, ih, Option.any_eq_true]
      constructor
      · rintro ⟨isFound, later⟩ key child member
        rcases List.mem_cons.mp member with equal | member
        · cases equal
          exact isFound
        · exact later key child member
      · intro all
        constructor
        · exact all name first List.mem_cons_self
        · intro key child member
          exact all key child (List.mem_cons_of_mem _ member)

theorem sameValue_collection_iff
    {kind otherKind : CollectionKind}
    {entries others : List (String × Document)} :
    (collection kind entries).sameValue (collection otherKind others) = true ↔
      kind = otherKind ∧ entries.length = others.length
        ∧ entriesFound entries others = true := by
  rw [sameValue, Bool.and_eq_true, Bool.and_eq_true, beq_iff_eq, beq_iff_eq,
    and_assoc]

end Document

end LeafPatch
