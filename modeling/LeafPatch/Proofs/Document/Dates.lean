import LeafPatch.Proofs.Document.Rereading
import LeafPatch.Proofs.Timestamp.RoundTrip

/-!
# Documents with dates that are written and read again

With dates detected a string that is a timestamp becomes a date, and a date is
written in universal time.  The written form is a timestamp again as long as its
year has four digits; then the date comes back, whatever the offset was in which
it was given.

In the zones ahead of universal time the year 0 begins a little before it does
there, and in the zones behind the year 9999 ends a little after.  An instant in
between lies in the year -1 or 10000 of universal time.  Its written form has a
sign before the year, is no timestamp, and comes back as a string.  A string
that is no date stays one, and all else stays what it is.
-/

namespace LeafPatch

open Timestamp (FourDigitYear)

namespace Scalar

/-- What a scalar is after it has been written and read with dates detected. -/
def readBack : Scalar → Scalar
  | number value => number value
  | text value => text value
  | date value =>
      if value.FourDigitYear then date value else text value.render

/-- A string is a date if it is a timestamp. -/
theorem parse?_of_ofText
    {text : String}
    {instant : Timestamp}
    (isDate : ofText true text = date instant) :
    Timestamp.parse? text = some instant := by
  rw [ofText, if_pos rfl] at isDate
  cases parsed : Timestamp.parse? text with
  | none =>
      rw [parsed] at isDate
      cases isDate
  | some other =>
      rw [parsed] at isDate
      cases isDate
      rfl

/-- The scalar of a string is read back from its written form. -/
theorem ofJson_toJson_ofText (value : String) :
    Document.ofJson true (ofText true value).toJson =
      .scalar (ofText true value).readBack := by
  unfold ofText
  rw [if_pos rfl]
  cases parsed : Timestamp.parse? value with
  | none =>
      rw [toJson, readBack, Document.ofJson, ofText, if_pos rfl, parsed]
  | some timestamp =>
      rw [toJson, readBack, Document.ofJson, ofText, if_pos rfl,
        Timestamp.parse?_render]
      by_cases fourDigits : timestamp.FourDigitYear
      · rw [if_pos fourDigits, if_pos fourDigits]
      · rw [if_neg fourDigits, if_neg fourDigits]

/-- Only a date whose year has a sign does not come back. -/
theorem readBack_eq_self_iff
    {value : Scalar} :
    value.readBack = value ↔
      ∀ timestamp, value = date timestamp → timestamp.FourDigitYear := by
  cases value with
  | number value => simp [readBack]
  | text value => simp [readBack]
  | date timestamp =>
      rw [readBack]
      split
      · next fourDigits => simp [fourDigits]
      · next signed => simp [signed]

theorem sameValue_readBack_iff
    {value : Scalar} :
    value.readBack.sameValue value = true ↔ value.readBack = value := by
  cases value with
  | number value => simp [readBack, sameValue]
  | text value => simp [readBack, sameValue]
  | date timestamp =>
      rw [readBack]
      split
      · simp [sameValue]
      · simp [sameValue]

end Scalar

namespace Document

/-- Every date of a classified value was read from a string. -/
theorem exists_parse?_of_mem_leaves
    {json : Json}
    {keys : List String}
    {timestamp : Timestamp}
    (leaf : (keys, .date timestamp) ∈ (ofJson true json).leaves) :
    ∃ text, Timestamp.parse? text = some timestamp := by
  have fromText :=
    forall_leaves_ofJson true
      (fun value =>
        ∀ instant, value = .date instant →
          ∃ text, Timestamp.parse? text = some instant)
      (fun number instant isDate => by cases isDate)
      (fun text instant isDate => ⟨text, Scalar.parse?_of_ofText isDate⟩)
      json
  exact fromText keys _ leaf timestamp rfl

/--
Every scalar of a classified value comes back when the value is written and
classified again, except for the dates that universal time moves into the year
-1 or 10000: these come back as strings.
-/
theorem ofJson_toJson_dates
    (json : Json)
    (distinct : (ofJson true json).DistinctKeys) :
    let document := ofJson true json
    let rereading := ofJson true document.toJson
    rereading = document.mapScalars Scalar.readBack
      ∧ (rereading.sameValue document = true ↔
          ∀ keys timestamp, (keys, .date timestamp) ∈ document.leaves →
            timestamp.FourDigitYear)
      ∧ (rereading.sameValue document = true ↔ rereading = document)
      ∧ ∀ keys timestamp, (keys, .date timestamp) ∈ document.leaves →
          ¬ timestamp.FourDigitYear →
            timestamp.date.year = -1 ∨ timestamp.date.year = 10000 := by
  intro document rereading
  have changed : rereading = document.mapScalars Scalar.readBack := by
    apply ofJson_toJson_ofJson true
    · intro number
      rfl
    · exact Scalar.ofJson_toJson_ofText
  have sameLeaves :
      rereading.sameValue document = true ↔
        ∀ keys value, (keys, value) ∈ document.leaves → value.readBack = value := by
    rw [changed]
    apply (sameValue_mapScalars_iff _ distinct).trans
    simp only [Scalar.sameValue_readBack_iff]
    rfl
  refine ⟨changed, ?_, ?_, ?_⟩
  · rw [sameLeaves]
    constructor
    · intro same keys timestamp leaf
      exact Scalar.readBack_eq_self_iff.mp (same keys _ leaf) timestamp rfl
    · intro fourDigits keys value leaf
      apply Scalar.readBack_eq_self_iff.mpr
      rintro timestamp rfl
      exact fourDigits keys timestamp leaf
  · constructor
    · intro same
      rw [changed]
      exact mapScalars_eq_self (sameLeaves.mp same)
    · intro equal
      rw [equal]
      exact sameValue_refl distinct
  · intro keys timestamp leaf signed
    rcases exists_parse?_of_mem_leaves leaf with ⟨text, parsed⟩
    have years := Timestamp.year_of_parse? parsed
    unfold FourDigitYear at signed
    omega

/--
A leap second comes back with its fraction; in a zone that is behind, the last
evening of the year 9999 is in the year after.
-/
theorem ofJson_toJson_dates_lastEvening :
    let leapSecond : Timestamp :=
      ⟨⟨2016, 12, 31, by decide, by decide⟩, 23, 59, 59, 1500000000,
        by decide, by decide, by decide, by decide, by decide⟩
    let evening : Timestamp :=
      ⟨⟨10000, 1, 1, by decide, by decide⟩, 23, 58, 59, 0,
        by decide, by decide, by decide, by decide, by decide⟩
    let json : Json :=
      .object
        [("leap", .text "2017-01-01T01:59:60.500+02:00"),
          ("eve", .array [.text "9999-12-31T23:59:59-23:59", .text "soon"])]
    let document := ofJson true json
    let rereading := ofJson true document.toJson
    document.DistinctKeys
      ∧ document.leaves =
          [(["leap"], .date leapSecond), (["eve", "0"], .date evening),
            (["eve", "1"], .text "soon")]
      ∧ rereading.leaves =
          [(["leap"], .date leapSecond),
            (["eve", "0"], .text "+10000-01-01T23:58:59Z"),
            (["eve", "1"], .text "soon")]
      ∧ rereading = document.mapScalars Scalar.readBack
      ∧ rereading.sameValue document = false
      ∧ (evening.date.year = -1 ∨ evening.date.year = 10000) := by
  intro leapSecond evening json document rereading
  have distinct : document.DistinctKeys := by
    apply distinctFields_iff.mpr
    constructor
    · simp [Keyed.keys]
    · intro key value member
      rw [List.mem_cons, List.mem_singleton, Prod.mk.injEq, Prod.mk.injEq]
        at member
      rcases member with ⟨rfl, rfl⟩ | ⟨rfl, rfl⟩
      · trivial
      · apply distinctKeys_array
        intro item isItem
        rw [List.mem_cons, List.mem_singleton] at isItem
        rcases isItem with rfl | rfl
        · trivial
        · trivial
  have leaves :
      document.leaves =
        [(["leap"], .date leapSecond), (["eve", "0"], .date evening),
          (["eve", "1"], .text "soon")] := by
    decide +kernel
  have signed : ¬ evening.FourDigitYear := by decide
  have isLeaf : (["eve", "0"], .date evening) ∈ document.leaves := by
    rw [leaves]
    simp
  rcases ofJson_toJson_dates json distinct with ⟨changed, dates, -, years⟩
  refine
    ⟨distinct, leaves, by decide +kernel, changed, ?_,
      years ["eve", "0"] evening isLeaf signed⟩
  rw [Bool.eq_false_iff]
  intro same
  exact signed (dates.mp same ["eve", "0"] evening isLeaf)

/--
A date can come back as a string: in a zone that is ahead, the first minutes of
the year 0 are in the year before.
-/
theorem ofJson_toJson_not_inverse_yearZero :
    ¬ ∀ json : Json,
        (ofJson true (ofJson true json).toJson).sameValue (ofJson true json) =
          true := by
  intro inverse
  have same := inverse (.text "0000-01-01T00:00:00+23:59")
  have different :
      (ofJson true (ofJson true (.text "0000-01-01T00:00:00+23:59")).toJson).sameValue
          (ofJson true (.text "0000-01-01T00:00:00+23:59")) =
        false := by
    decide +kernel
  rw [different] at same
  cases same

end Document

end LeafPatch
