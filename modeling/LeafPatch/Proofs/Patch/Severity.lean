import LeafPatch.Patch.Draft
import LeafPatch.Proofs.Document.Unrecognized
import LeafPatch.Proofs.Patch.Blocked

/-!
# What the status of a patch says

The status of a comparison is the most severe one met on the walk, so a severity
is reached for two collections exactly if it is reached under one of their keys.
From this law the status can be read off the two documents alone.

It is clean if nothing in either document is unrecognized.  It is that of an
unknown type if something unrecognized in one document has no counterpart in the
other and the walk gets there: at the last place that both have on the way, the
other document is recognized.  In all other cases the two clash somewhere.
-/

namespace LeafPatch

namespace Status

/--
A severity is reached by one of two statuses if and only if it is reached by the
merged one.
-/
theorem le_code_merge_iff
    {severity : Nat}
    (left right : Status) :
    severity ≤ (left.merge right).code ↔
      severity ≤ left.code ∨ severity ≤ right.code := by
  unfold merge
  split <;> omega

theorem eq_ok_iff
    {status : Status} :
    status = .ok ↔ ¬ 1 ≤ status.code := by
  cases status <;> simp [code]

theorem eq_unknownType_iff
    {status : Status} :
    status = .unknownType ↔ 2 ≤ status.code := by
  cases status <;> simp [code]

theorem eq_error_iff
    {status : Status} :
    status = .error ↔ 1 ≤ status.code ∧ ¬ 2 ≤ status.code := by
  cases status <;> simp [code]

end Status

namespace Document

/-! ## Places that only one document has -/

/-- The last place that both documents have on the way to another. -/
structure LastShared
    (source target : Document)
    (keys shared : List String) :
    Prop where
  above : shared <+: keys
  inSource : (source.follow? shared).isSome
  inTarget : (target.follow? shared).isSome
  last :
    ∀ other, other <+: keys →
      (source.follow? other).isSome → (target.follow? other).isSome →
        other <+: shared

/--
Something unrecognized stands at a place that the other document does not have,
and at the last place that both have on the way the other one is recognized.
-/
def Unmatched (document other : Document) (keys : List String) : Prop :=
  document.UnrecognizedAt keys ∧ other.follow? keys = none
    ∧ ∃ shared node,
        LastShared document other keys shared
          ∧ other.follow? shared = some node
          ∧ node.isUnrecognized = false

theorem not_unmatched_nil
    {document other : Document} :
    ¬ Unmatched document other [] := by
  rintro ⟨-, absent, -⟩
  cases absent

/--
Where the other document has no such child, the roots are the last places
shared.
-/
theorem lastShared_nil
    {document other : Document}
    {key : String}
    (absent : other.find? key = none)
    (keys : List String) :
    LastShared document other (key :: keys) [] where
  above := List.nil_prefix
  inSource := rfl
  inTarget := rfl
  last := by
    intro place above _ inOther
    cases place with
    | nil => exact List.nil_prefix
    | cons name rest =>
        rcases List.cons_prefix_cons.mp above with ⟨rfl, -⟩
        simp [follow?_cons, absent] at inOther

/--
Where both documents have the child, the last place shared is one of the
children's.
-/
theorem lastShared_cons_iff
    {document other child otherChild : Document}
    {key : String}
    (isChild : document.find? key = some child)
    (isOtherChild : other.find? key = some otherChild)
    {keys shared : List String} :
    LastShared document other (key :: keys) shared ↔
      ∃ rest, shared = key :: rest
        ∧ LastShared child otherChild keys rest := by
  constructor
  · rintro ⟨above, inDocument, inOther, last⟩
    have reached : [key] <+: shared :=
      last [key] (by simp) (by simp [follow?_cons, isChild])
        (by simp [follow?_cons, isOtherChild])
    rcases reached with ⟨rest, rfl⟩
    rw [List.singleton_append] at *
    refine ⟨rest, rfl, (List.cons_prefix_cons.mp above).2, ?_, ?_, ?_⟩
    · simpa [follow?_cons, isChild] using inDocument
    · simpa [follow?_cons, isOtherChild] using inOther
    · intro place placeAbove inChild inOtherChild
      have below :=
        last (key :: place)
          (List.cons_prefix_cons.mpr ⟨rfl, placeAbove⟩)
          (by simpa [follow?_cons, isChild] using inChild)
          (by simpa [follow?_cons, isOtherChild] using inOtherChild)
      exact (List.cons_prefix_cons.mp below).2
  · rintro ⟨rest, rfl, above, inChild, inOtherChild, last⟩
    refine ⟨List.cons_prefix_cons.mpr ⟨rfl, above⟩, ?_, ?_, ?_⟩
    · simpa [follow?_cons, isChild] using inChild
    · simpa [follow?_cons, isOtherChild] using inOtherChild
    · intro place placeAbove inDocument inOther
      cases place with
      | nil => exact List.nil_prefix
      | cons name below =>
          rcases List.cons_prefix_cons.mp placeAbove with ⟨rfl, belowAbove⟩
          apply List.cons_prefix_cons.mpr
          exact
            ⟨rfl,
              last below belowAbove
                (by simpa [follow?_cons, isChild] using inDocument)
                (by simpa [follow?_cons, isOtherChild] using inOther)⟩

theorem unmatched_cons_iff_of_none
    {document other : Document}
    {key : String}
    (absent : other.find? key = none)
    {keys : List String} :
    Unmatched document other (key :: keys) ↔
      document.UnrecognizedAt (key :: keys)
        ∧ other.isUnrecognized = false := by
  have roots : LastShared document other (key :: keys) [] :=
    lastShared_nil absent keys
  constructor
  · rintro ⟨found, -, shared, node, lastShared, isNode, recognized⟩
    have atRoot : shared = [] := by
      cases shared with
      | nil => rfl
      | cons name rest =>
          rcases List.cons_prefix_cons.mp lastShared.above with ⟨rfl, -⟩
          simp [follow?_cons, absent] at isNode
    subst shared
    cases isNode
    exact ⟨found, recognized⟩
  · rintro ⟨found, recognized⟩
    exact
      ⟨found, by simp [follow?_cons, absent],
        [], other, roots, rfl, recognized⟩

theorem unmatched_cons_iff_of_some
    {document other child otherChild : Document}
    {key : String}
    (isChild : document.find? key = some child)
    (isOtherChild : other.find? key = some otherChild)
    {keys : List String} :
    Unmatched document other (key :: keys) ↔
      Unmatched child otherChild keys := by
  simp only [Unmatched, unrecognizedAt_cons_iff, follow?_cons, isChild,
    isOtherChild, Option.bind_some, Option.some.injEq, exists_eq_left']
  refine and_congr_right fun _ => and_congr_right fun _ => ?_
  constructor
  · rintro ⟨shared, node, lastShared, isNode, recognized⟩
    rcases (lastShared_cons_iff isChild isOtherChild).mp lastShared with
      ⟨rest, rfl, lastBelow⟩
    rw [follow?_cons, isOtherChild, Option.bind_some] at isNode
    exact ⟨rest, node, lastBelow, isNode, recognized⟩
  · rintro ⟨rest, node, lastShared, isNode, recognized⟩
    refine ⟨key :: rest, node, ?_, ?_, recognized⟩
    · exact
        (lastShared_cons_iff isChild isOtherChild).mpr ⟨rest, rfl, lastShared⟩
    · rw [follow?_cons, isOtherChild, Option.bind_some, isNode]

/--
A document without children that is recognized leaves all below the other's root
unmatched.
-/
theorem exists_unmatched_iff_of_childless
    (document other : Document)
    (childless : ∀ key, other.find? key = none)
    (recognized : other.isUnrecognized = false)
    (rootRecognized : document.isUnrecognized = false) :
    (∃ keys, Unmatched document other keys) ↔
      ∃ keys, document.UnrecognizedAt keys := by
  constructor
  · rintro ⟨keys, found, -⟩
    exact ⟨keys, found⟩
  · rintro ⟨keys, found⟩
    cases keys with
    | nil =>
        rw [unrecognizedAt_nil_iff, rootRecognized] at found
        cases found
    | cons key rest =>
        exact
          ⟨key :: rest,
            (unmatched_cons_iff_of_none (childless key)).mpr
              ⟨found, recognized⟩⟩

/-! ## One step of the walk -/

/-- The status of what there is on two sides, which may be nothing. -/
def statusBetween : Option Document → Option Document → Status
  | some before, some after => before.comparisonStatus after
  | some before, none => before.expansionStatus
  | none, some after => after.expansionStatus
  | none, none => .ok

theorem le_code_comparisonStatusWithin_iff
    {severity : Nat}
    (positive : 0 < severity)
    {before after : List (String × Document)} :
    severity ≤ (comparisonStatusWithin before after).code ↔
      ∃ key child, (key, child) ∈ before
        ∧ severity ≤
            (statusBetween (some child) (Keyed.find? key after)).code := by
  induction before with
  | nil =>
      simp only [comparisonStatusWithin, Status.code, List.not_mem_nil,
        false_and, exists_false, iff_false]
      omega
  | cons entry rest ih =>
      rcases entry with ⟨name, first⟩
      have head :
          comparisonStatusWithin ((name, first) :: rest) after =
            Status.merge
              (statusBetween (some first) (Keyed.find? name after))
              (comparisonStatusWithin rest after) := by
        rw [comparisonStatusWithin]
        cases Keyed.find? name after <;> rfl
      rw [head, Status.le_code_merge_iff, ih]
      constructor
      · rintro (reached | ⟨key, child, member, reached⟩)
        · exact ⟨name, first, List.mem_cons_self, reached⟩
        · exact ⟨key, child, List.mem_cons_of_mem _ member, reached⟩
      · rintro ⟨key, child, member, reached⟩
        rcases List.mem_cons.mp member with equal | later
        · cases equal
          exact Or.inl reached
        · exact Or.inr ⟨key, child, later, reached⟩

theorem le_code_additionsStatus_iff
    {severity : Nat}
    (positive : 0 < severity)
    {before after : List (String × Document)} :
    severity ≤ (additionsStatus before after).code ↔
      ∃ key child, (key, child) ∈ after ∧ Keyed.find? key before = none
        ∧ severity ≤ child.expansionStatus.code := by
  induction after with
  | nil =>
      simp only [additionsStatus, Status.code, List.not_mem_nil,
        false_and, exists_false, iff_false]
      omega
  | cons entry rest ih =>
      rcases entry with ⟨name, first⟩
      have absent_iff :
          Keyed.contains name before = true ↔
            ¬ Keyed.find? name before = none := by
        rw [Keyed.contains_iff, Keyed.find?_eq_none_iff, Classical.not_not]
      rw [additionsStatus, Status.le_code_merge_iff, ih]
      constructor
      · rintro (reached | ⟨key, child, member, reached⟩)
        · by_cases present : Keyed.contains name before = true
          · simp only [present, if_true, Status.code] at reached
            omega
          · simp only [present, Bool.false_eq_true, if_false] at reached
            refine ⟨name, first, List.mem_cons_self, ?_, reached⟩
            exact Classical.not_not.mp fun found => present (absent_iff.mpr found)
        · exact ⟨key, child, List.mem_cons_of_mem _ member, reached⟩
      · rintro ⟨key, child, member, absent, reached⟩
        rcases List.mem_cons.mp member with equal | later
        · cases equal
          left
          rw [if_neg fun present => absent_iff.mp present absent]
          exact reached
        · exact Or.inr ⟨key, child, later, absent, reached⟩

/--
A severity is reached for two collections exactly if it is reached under one of
their keys.
-/
theorem le_code_comparisonStatus_collection_iff
    {severity : Nat}
    (positive : 0 < severity)
    {kind otherKind : CollectionKind}
    {before after : List (String × Document)}
    (distinctBefore : (Keyed.keys before).Nodup)
    (distinctAfter : (Keyed.keys after).Nodup) :
    severity ≤
        ((collection kind before).comparisonStatus
          (collection otherKind after)).code ↔
      ∃ key, severity ≤
        (statusBetween (Keyed.find? key before) (Keyed.find? key after)).code := by
  rw [comparisonStatus, Status.le_code_merge_iff,
    le_code_comparisonStatusWithin_iff positive,
    le_code_additionsStatus_iff positive]
  constructor
  · rintro (⟨key, child, member, reached⟩ | ⟨key, child, member, absent, reached⟩)
    · rw [← (Keyed.find?_eq_some_iff distinctBefore).mpr member] at reached
      exact ⟨key, reached⟩
    · refine ⟨key, ?_⟩
      rw [absent, (Keyed.find?_eq_some_iff distinctAfter).mpr member]
      exact reached
  · rintro ⟨key, reached⟩
    cases isBefore : Keyed.find? key before with
    | some child =>
        rw [isBefore] at reached
        exact Or.inl ⟨key, child, Keyed.mem_of_find?_eq_some isBefore, reached⟩
    | none =>
        cases isAfter : Keyed.find? key after with
        | none =>
            simp only [isBefore, isAfter, statusBetween, Status.code] at reached
            omega
        | some child =>
            rw [isBefore, isAfter] at reached
            exact Or.inr
              ⟨key, child, Keyed.mem_of_find?_eq_some isAfter, isBefore, reached⟩

/--
Expanding a document has any severity at all exactly if something in it is
unrecognized.
-/
theorem le_code_expansionStatus_iff
    {severity : Nat}
    (positive : 0 < severity)
    (bounded : severity ≤ 2)
    {document : Document}
    (distinct : document.DistinctKeys) :
    severity ≤ document.expansionStatus.code ↔
      ∃ keys, document.UnrecognizedAt keys := by
  rw [← hasUnrecognized_iff distinct, expansionStatus]
  cases document.hasUnrecognized <;> simp [Status.code] <;> omega

/-- Where one of the documents is unrecognized, the walk ends with an error. -/
theorem comparisonStatus_of_unrecognized
    {source target : Document}
    (unrecognized :
      source.isUnrecognized = true ∨ target.isUnrecognized = true) :
    source.comparisonStatus target = .error := by
  rcases unrecognized with atSource | atTarget
  · rcases exists_eq_unrecognized atSource with ⟨old, rfl⟩
    cases target <;> rfl
  · rcases exists_eq_unrecognized atTarget with ⟨new, rfl⟩
    cases source <;> rfl

/-! ## The whole walk -/

theorem one_le_code_comparisonStatus_iff
    {source target : Document}
    (distinctSource : source.DistinctKeys)
    (distinctTarget : target.DistinctKeys) :
    1 ≤ (source.comparisonStatus target).code ↔
      (∃ keys, source.UnrecognizedAt keys)
        ∨ ∃ keys, target.UnrecognizedAt keys := by
  induction source, target, distinctSource, distinctTarget
    using pairInduction with
  | unrecognized source target _ _ unrecognized =>
      rw [comparisonStatus_of_unrecognized unrecognized]
      simp only [Status.code, Nat.le_refl, true_iff]
      rcases unrecognized with atSource | atTarget
      · exact Or.inl ⟨[], unrecognizedAt_nil_iff.mpr atSource⟩
      · exact Or.inr ⟨[], unrecognizedAt_nil_iff.mpr atTarget⟩
  | scalars old new => simp [comparisonStatus, Status.code]
  | scalarCollection old kind after distinctSource distinctTarget =>
      rw [comparisonStatus,
        le_code_expansionStatus_iff (by omega) (by omega) distinctTarget]
      simp
  | collectionScalar kind before new distinctSource distinctTarget =>
      rw [comparisonStatus,
        le_code_expansionStatus_iff (by omega) (by omega) distinctSource]
      simp
  | collections kind otherKind before after distinctSource distinctTarget ih =>
      rw [le_code_comparisonStatus_collection_iff (by omega)
          distinctSource.nodup distinctTarget.nodup,
        exists_unrecognizedAt_collection_iff,
        exists_unrecognizedAt_collection_iff, ← exists_or]
      refine exists_congr fun key => ?_
      cases isBefore : Keyed.find? key before with
      | none =>
          cases isAfter : Keyed.find? key after with
          | none => simp [statusBetween, Status.code]
          | some other =>
              rw [statusBetween,
                le_code_expansionStatus_iff (by omega) (by omega)
                  (distinctTarget.descend isAfter)]
              simp
      | some child =>
          cases isAfter : Keyed.find? key after with
          | none =>
              rw [statusBetween,
                le_code_expansionStatus_iff (by omega) (by omega)
                  (distinctSource.descend isBefore)]
              simp
          | some other =>
              rw [statusBetween, ih key child other isBefore isAfter]
              simp

/-- What is unmatched in either of two documents, at one place. -/
def UnmatchedEither (source target : Document) (keys : List String) : Prop :=
  Unmatched source target keys ∨ Unmatched target source keys

theorem unmatchedEither_cons_iff_of_some
    {source target before after : Document}
    {key : String}
    (isBefore : source.find? key = some before)
    (isAfter : target.find? key = some after)
    {keys : List String} :
    UnmatchedEither source target (key :: keys) ↔
      UnmatchedEither before after keys := by
  rw [UnmatchedEither, unmatched_cons_iff_of_some isBefore isAfter,
    unmatched_cons_iff_of_some isAfter isBefore]
  rfl

theorem unmatchedEither_symm
    {source target : Document}
    {keys : List String} :
    UnmatchedEither source target keys ↔ UnmatchedEither target source keys :=
  or_comm

/--
In a child that only one of two documents has, all that is unrecognized is
unmatched.
-/
theorem unmatchedEither_cons_iff_of_none
    {source target child : Document}
    {key : String}
    (isBefore : source.find? key = some child)
    (absent : target.find? key = none)
    (recognized : target.isUnrecognized = false)
    {keys : List String} :
    UnmatchedEither source target (key :: keys) ↔
      child.UnrecognizedAt keys := by
  have notInTarget : ¬ Unmatched target source (key :: keys) := by
    rintro ⟨found, -⟩
    simp [unrecognizedAt_cons_iff, absent] at found
  rw [UnmatchedEither, or_iff_left notInTarget,
    unmatched_cons_iff_of_none absent, unrecognizedAt_cons_iff]
  simp [isBefore, recognized]

theorem exists_unmatchedEither_collection_iff
    {kind otherKind : CollectionKind}
    {before after : List (String × Document)} :
    (∃ keys,
        UnmatchedEither (collection kind before) (collection otherKind after)
          keys) ↔
      ∃ key keys,
        UnmatchedEither (collection kind before) (collection otherKind after)
          (key :: keys) := by
  constructor
  · rintro ⟨keys, unmatched⟩
    cases keys with
    | nil =>
        rcases unmatched with unmatched | unmatched
        · exact absurd unmatched not_unmatched_nil
        · exact absurd unmatched not_unmatched_nil
    | cons key rest => exact ⟨key, rest, unmatched⟩
  · rintro ⟨key, rest, unmatched⟩
    exact ⟨key :: rest, unmatched⟩

/--
Against a scalar, all that is unrecognized below the root of a document is
unmatched.
-/
theorem exists_unmatchedEither_scalar_iff
    {document : Document}
    {value : Scalar}
    (rootRecognized : document.isUnrecognized = false) :
    (∃ keys, UnmatchedEither document (scalar value) keys) ↔
      ∃ keys, document.UnrecognizedAt keys := by
  rw [← exists_unmatched_iff_of_childless document (scalar value)
    (fun _ => rfl) rfl rootRecognized]
  refine exists_congr fun keys => or_iff_left ?_
  rintro ⟨⟨inner, found⟩, -⟩
  cases keys with
  | nil => cases found
  | cons key rest => simp [follow?_cons] at found

/-- Against an unrecognized document nothing is unmatched. -/
theorem not_unmatchedEither_of_unrecognized
    {source target : Document}
    (unrecognized : target.isUnrecognized = true)
    (keys : List String) :
    ¬ UnmatchedEither source target keys := by
  rcases exists_eq_unrecognized unrecognized with ⟨value, rfl⟩
  cases keys with
  | nil =>
      rintro (unmatched | unmatched)
      · exact not_unmatched_nil unmatched
      · exact not_unmatched_nil unmatched
  | cons key rest =>
      rintro (unmatched | ⟨found, -⟩)
      · rw [unmatched_cons_iff_of_none rfl] at unmatched
        cases unmatched.2
      · simp [unrecognizedAt_cons_iff] at found

theorem two_le_code_comparisonStatus_iff
    {source target : Document}
    (distinctSource : source.DistinctKeys)
    (distinctTarget : target.DistinctKeys) :
    2 ≤ (source.comparisonStatus target).code ↔
      ∃ keys, UnmatchedEither source target keys := by
  induction source, target, distinctSource, distinctTarget
    using pairInduction with
  | unrecognized source target _ _ unrecognized =>
      rw [comparisonStatus_of_unrecognized unrecognized]
      simp only [Status.code, Nat.reduceLeDiff, false_iff, not_exists]
      intro keys unmatched
      rcases unrecognized with atSource | atTarget
      · exact
          not_unmatchedEither_of_unrecognized atSource keys
            (unmatchedEither_symm.mp unmatched)
      · exact not_unmatchedEither_of_unrecognized atTarget keys unmatched
  | scalars old new =>
      rw [exists_unmatchedEither_scalar_iff rfl]
      simp [comparisonStatus, Status.code]
  | scalarCollection old kind after distinctSource distinctTarget =>
      simp only [@unmatchedEither_symm (scalar old)]
      rw [comparisonStatus, exists_unmatchedEither_scalar_iff rfl,
        le_code_expansionStatus_iff (by omega) (by omega) distinctTarget]
  | collectionScalar kind before new distinctSource distinctTarget =>
      rw [comparisonStatus, exists_unmatchedEither_scalar_iff rfl,
        le_code_expansionStatus_iff (by omega) (by omega) distinctSource]
  | collections kind otherKind before after distinctSource distinctTarget ih =>
      rw [le_code_comparisonStatus_collection_iff (by omega)
          distinctSource.nodup distinctTarget.nodup,
        exists_unmatchedEither_collection_iff]
      refine exists_congr fun key => ?_
      cases isBefore : Keyed.find? key before with
      | none =>
          cases isAfter : Keyed.find? key after with
          | none =>
              simp only [statusBetween, Status.code, Nat.reduceLeDiff,
                false_iff, not_exists]
              rintro keys (⟨found, -⟩ | ⟨found, -⟩)
              · simp [unrecognizedAt_cons_iff, isBefore] at found
              · simp [unrecognizedAt_cons_iff, isAfter] at found
          | some other =>
              rw [statusBetween,
                le_code_expansionStatus_iff (by omega) (by omega)
                  (distinctTarget.descend isAfter)]
              refine exists_congr fun keys => ?_
              rw [unmatchedEither_symm]
              refine Iff.symm (unmatchedEither_cons_iff_of_none ?_ ?_ rfl)
              · exact isAfter
              · exact isBefore
      | some child =>
          cases isAfter : Keyed.find? key after with
          | none =>
              rw [statusBetween,
                le_code_expansionStatus_iff (by omega) (by omega)
                  (distinctSource.descend isBefore)]
              refine exists_congr fun keys => ?_
              refine Iff.symm (unmatchedEither_cons_iff_of_none ?_ ?_ rfl)
              · exact isBefore
              · exact isAfter
          | some other =>
              rw [statusBetween, ih key child other isBefore isAfter]
              refine exists_congr fun keys => ?_
              refine Iff.symm (unmatchedEither_cons_iff_of_some ?_ ?_)
              · exact isBefore
              · exact isAfter

theorem expansionStatus_ne_error (document : Document) :
    document.expansionStatus ≠ .error := by
  rw [expansionStatus]
  cases document.hasUnrecognized <;> simp

/-- The status of an error comes from a clash. -/
theorem exists_clash_of_comparisonStatus_eq_error
    {source target : Document}
    (distinctSource : source.DistinctKeys)
    (distinctTarget : target.DistinctKeys)
    (isError : source.comparisonStatus target = .error) :
    ∃ keys, Clash source target keys := by
  induction source, target, distinctSource, distinctTarget
    using pairInduction with
  | unrecognized source target _ _ unrecognized =>
      exact ⟨[], clash_nil_iff.mpr unrecognized⟩
  | scalars old new => cases isError
  | scalarCollection old kind after =>
      exact absurd isError (expansionStatus_ne_error _)
  | collectionScalar kind before new =>
      exact absurd isError (expansionStatus_ne_error _)
  | collections kind otherKind before after distinctSource distinctTarget ih =>
      rw [Status.eq_error_iff,
        le_code_comparisonStatus_collection_iff (by omega)
          distinctSource.nodup distinctTarget.nodup,
        le_code_comparisonStatus_collection_iff (by omega)
          distinctSource.nodup distinctTarget.nodup] at isError
      rcases isError with ⟨⟨key, reached⟩, notWorse⟩
      have childError :
          statusBetween (Keyed.find? key before) (Keyed.find? key after) =
            .error :=
        Status.eq_error_iff.mpr
          ⟨reached, fun worse => notWorse ⟨key, worse⟩⟩
      cases isBefore : Keyed.find? key before with
      | none =>
          cases isAfter : Keyed.find? key after with
          | none => simp [isBefore, isAfter, statusBetween] at childError
          | some other =>
              rw [isBefore, isAfter] at childError
              exact absurd childError (expansionStatus_ne_error other)
      | some child =>
          cases isAfter : Keyed.find? key after with
          | none =>
              rw [isBefore, isAfter] at childError
              exact absurd childError (expansionStatus_ne_error child)
          | some other =>
              rw [isBefore, isAfter] at childError
              rcases ih key child other isBefore isAfter childError with
                ⟨keys, clash⟩
              exact
                ⟨key :: keys,
                  clash_cons_iff.mpr
                    ⟨child, other, isBefore, isAfter, clash⟩⟩

/--
What the status of a patch says.  It is clean exactly if nothing in either
document is unrecognized, and it is that of an unknown type exactly if something
unrecognized in one of them is unmatched in the other.  It is an error in all
other cases, and then the two documents clash somewhere.
-/
theorem patchTo_status
    (source target : Document)
    (options : Options)
    (distinctSource : source.DistinctKeys)
    (distinctTarget : target.DistinctKeys) :
    ((source.patchTo target options).status = .ok ↔
        (¬ ∃ keys, source.UnrecognizedAt keys)
          ∧ ¬ ∃ keys, target.UnrecognizedAt keys)
      ∧ ((source.patchTo target options).status = .unknownType ↔
          ∃ keys,
            Unmatched source target keys ∨ Unmatched target source keys)
      ∧ ((source.patchTo target options).status = .error ↔
          ((∃ keys, source.UnrecognizedAt keys)
              ∨ ∃ keys, target.UnrecognizedAt keys)
            ∧ ¬ ∃ keys,
                Unmatched source target keys ∨ Unmatched target source keys)
      ∧ ((source.patchTo target options).status = .error →
          ∃ keys, Clash source target keys) := by
  have isComparison :
      (source.patchTo target options).status =
        source.comparisonStatus target :=
    Status.ok_merge _
  have anyReached :=
    one_le_code_comparisonStatus_iff distinctSource distinctTarget
  have worstReached :=
    two_le_code_comparisonStatus_iff distinctSource distinctTarget
  simp only [UnmatchedEither] at worstReached
  rw [isComparison]
  refine ⟨?_, ?_, ?_, ?_⟩
  · rw [Status.eq_ok_iff, anyReached, not_or]
  · rw [Status.eq_unknownType_iff, worstReached]
  · rw [Status.eq_error_iff, anyReached, worstReached]
  · exact exists_clash_of_comparisonStatus_eq_error distinctSource distinctTarget

/--
A null in the place of a string is an error, and one without counterpart is
more.
-/
theorem patchTo_status_nulls :
    let before :=
      collection .mapping
        [("a", unrecognized .null), ("b", ofText "x")]
    let after := collection .mapping [("b", unrecognized .null)]
    before.DistinctKeys ∧ after.DistinctKeys
      ∧ Unmatched before after ["a"]
      ∧ (before.patchTo after Options.default).status = .unknownType
      ∧ (after.patchTo after Options.default).status = .error
      ∧ ∃ keys, Clash after after keys := by
  intro before after
  have distinctBefore : before.DistinctKeys := by
    simp [before, ofText, DistinctKeys, DistinctKeysWithin, Keyed.keys]
  have distinctAfter : after.DistinctKeys := by
    simp [after, DistinctKeys, DistinctKeysWithin, Keyed.keys]
  have unmatched : Unmatched before after ["a"] := by
    rw [unmatched_cons_iff_of_none (by simp [after, Keyed.find?])]
    exact ⟨⟨.null, rfl⟩, rfl⟩
  rcases patchTo_status before after Options.default distinctBefore distinctAfter with
    ⟨-, isUnknown, -, -⟩
  rcases patchTo_status after after Options.default distinctAfter distinctAfter with
    ⟨-, -, -, clashes⟩
  exact
    ⟨distinctBefore, distinctAfter, unmatched,
      isUnknown.mpr ⟨["a"], Or.inl unmatched⟩, by decide,
      clashes (by decide)⟩

end Document

end LeafPatch
