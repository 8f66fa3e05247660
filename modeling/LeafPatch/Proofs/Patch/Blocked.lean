import LeafPatch.Proofs.Document.Place

/-!
# Places that a comparison cannot reach

Two documents clash at a place that both have and where at least one of them is
unrecognized.  The walk over the two ends there, so the place and all places
below it are blocked.
-/

namespace LeafPatch.Document

/-- Both documents have the place, and at least one is unrecognized there. -/
def Clash (source target : Document) (keys : List String) : Prop :=
  ∃ before after,
    source.follow? keys = some before ∧ target.follow? keys = some after
      ∧ (before.isUnrecognized = true ∨ after.isUnrecognized = true)

/-- The documents clash at the place or above it. -/
def Blocked (source target : Document) (keys : List String) : Prop :=
  ∃ stop, stop <+: keys ∧ Clash source target stop

/-- The documents clash at their roots if one of them is unrecognized. -/
theorem clash_nil_iff
    {source target : Document} :
    Clash source target [] ↔
      source.isUnrecognized = true ∨ target.isUnrecognized = true := by
  constructor
  · rintro ⟨before, after, isBefore, isAfter, unrecognized⟩
    cases isBefore
    cases isAfter
    exact unrecognized
  · intro unrecognized
    exact ⟨source, target, rfl, rfl, unrecognized⟩

/-- Below the roots the documents clash where two children under one key do. -/
theorem clash_cons_iff
    {source target : Document}
    {key : String}
    {keys : List String} :
    Clash source target (key :: keys) ↔
      ∃ before after,
        source.find? key = some before ∧ target.find? key = some after
          ∧ Clash before after keys := by
  constructor
  · rintro ⟨left, right, isLeft, isRight, unrecognized⟩
    rw [follow?_cons] at isLeft isRight
    rcases Option.bind_eq_some_iff.mp isLeft with ⟨before, isBefore, isLeft⟩
    rcases Option.bind_eq_some_iff.mp isRight with ⟨after, isAfter, isRight⟩
    exact
      ⟨before, after, isBefore, isAfter,
        left, right, isLeft, isRight, unrecognized⟩
  · rintro ⟨before, after, isBefore, isAfter, left, right, isLeft, isRight,
      unrecognized⟩
    refine ⟨left, right, ?_, ?_, unrecognized⟩
    · rw [follow?_cons, isBefore, Option.bind_some, isLeft]
    · rw [follow?_cons, isAfter, Option.bind_some, isRight]

theorem blocked_of_clash_nil
    {source target : Document}
    (clash : Clash source target [])
    (keys : List String) :
    Blocked source target keys :=
  ⟨[], List.nil_prefix, clash⟩

theorem blocked_nil_iff
    {source target : Document} :
    Blocked source target [] ↔ Clash source target [] := by
  constructor
  · rintro ⟨stop, above, clash⟩
    rw [List.prefix_nil.mp above] at clash
    exact clash
  · intro clash
    exact blocked_of_clash_nil clash []

theorem blocked_cons_iff
    {source target : Document}
    {key : String}
    {keys : List String} :
    Blocked source target (key :: keys) ↔
      Clash source target []
        ∨ ∃ before after,
            source.find? key = some before ∧ target.find? key = some after
              ∧ Blocked before after keys := by
  constructor
  · rintro ⟨stop, above, clash⟩
    cases stop with
    | nil => exact Or.inl clash
    | cons name rest =>
        rcases List.cons_prefix_cons.mp above with ⟨rfl, aboveRest⟩
        rcases clash_cons_iff.mp clash with
          ⟨before, after, isBefore, isAfter, clash⟩
        exact Or.inr ⟨before, after, isBefore, isAfter, rest, aboveRest, clash⟩
  · rintro (clash | ⟨before, after, isBefore, isAfter, stop, above, clash⟩)
    · exact blocked_of_clash_nil clash _
    · exact
        ⟨key :: stop, List.cons_prefix_cons.mpr ⟨rfl, above⟩,
          clash_cons_iff.mpr ⟨before, after, isBefore, isAfter, clash⟩⟩

/-- A document without children can only clash with another at the root. -/
theorem blocked_iff_of_childless
    {source target : Document}
    (childless : ∀ key, source.find? key = none ∨ target.find? key = none)
    {keys : List String} :
    Blocked source target keys ↔ Clash source target [] := by
  cases keys with
  | nil => exact blocked_nil_iff
  | cons key rest =>
      rw [blocked_cons_iff]
      constructor
      · rintro (clash | ⟨before, after, isBefore, isAfter, -⟩)
        · exact clash
        · rcases childless key with absent | absent
          · simp [absent] at isBefore
          · simp [absent] at isAfter
      · exact Or.inl

end LeafPatch.Document
