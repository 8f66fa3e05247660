import LeafPatch.Decoding.Options
import LeafPatch.Proofs.Attempt
import LeafPatch.Proofs.Json.Reading
import LeafPatch.Proofs.Keyed
import LeafPatch.Proofs.Options
import Mathlib.Data.List.Forall2

/-!
# Options that are decoded

A JSON value from which options are decoded is a record of settings: an object
that has them under their names in any order, or an array that has the first few
of them in the order of the names, and none of them twice.  To decode the record
is to make these settings on the default options, all as one attempt.  So decoding
checks a base path no more and no less than giving it to options does, and decodes
no options that settings do not lead to.

Options are stored with all their settings, and if their base path is valid, they
are decoded again, from the JSON value as well as from its text.
-/

namespace LeafPatch

namespace Decoded

theorem text_eq_ok_iff {content : Json} {value : String} :
    text content = .ok value ↔ content = .text value := by
  cases content <;> simp [text]

theorem boolean_eq_ok_iff {content : Json} {value : Bool} :
    boolean content = .ok value ↔ content = .bool value := by
  cases content <;> simp [boolean]

theorem unit_eq_ok_iff {content : Json} {answer : Unit} :
    unit content = .ok answer ↔ content = .null := by
  cases content <;> simp [unit]

/-- A record takes up a field that is decoded and is given for the first time. -/
theorem once_bind_eq_ok_iff
    {Value Record : Type}
    {name : String}
    {before : Option Value}
    {decode : Json → Decoded Value}
    {content : Json}
    {takeUp : Option Value → Record}
    {later : Record} :
    (once name before decode content >>= fun given => pure (takeUp given)) =
        .ok later ↔
      before = none
        ∧ ∃ value, decode content = .ok value
          ∧ takeUp (some value) = later := by
  cases before with
  | some value => simp [once, bind, Except.bind]
  | none =>
      rw [once, bind_eq_ok_iff]
      cases decode content with
      | error reason => simp [Except.map]
      | ok value => simp [Except.map, pure, Except.pure]

section Variants

variable
    {Value : Type}
    {values : List Value}
    {nameOf : Value → String}
    (apart : Function.Injective nameOf)

include apart

theorem named_eq_ok_iff {name : String} {value : Value} :
    named values nameOf name = .ok value ↔
      value ∈ values ∧ nameOf value = name := by
  rw [named]
  cases found : values.find? fun value => nameOf value == name with
  | none =>
      rw [List.find?_eq_none] at found
      simp only [beq_iff_eq] at found
      simp only [reduceCtorEq, false_iff, not_and]
      exact found value
  | some other =>
      have isOther := List.find?_some found
      rw [beq_iff_eq] at isOther
      rw [Except.ok.injEq]
      constructor
      · rintro rfl
        exact ⟨List.mem_of_find?_eq_some found, isOther⟩
      · rintro ⟨-, isValue⟩
        exact apart (isOther.trans isValue.symm)

/-- One of some values is decoded from its name, alone or as a key over null. -/
theorem variant_eq_ok_iff {content : Json} {value : Value} :
    variant values nameOf content = .ok value ↔
      value ∈ values
        ∧ (content = .text (nameOf value)
          ∨ content = .object [(nameOf value, .null)]) := by
  cases content with
  | text name =>
      rw [variant, named_eq_ok_iff apart]
      simp [eq_comm]
  | object fields =>
      rcases fields with - | ⟨⟨name, inner⟩, - | ⟨second, rest⟩⟩
      · simp [variant]
      · simp only [variant, bind_eq_ok_iff, named_eq_ok_iff apart,
          unit_eq_ok_iff, reduceCtorEq, false_or, Json.object.injEq,
          List.cons.injEq, Prod.mk.injEq, and_true]
        constructor
        · rintro ⟨found, ⟨member, rfl⟩, -, rfl, ⟨⟩⟩
          exact ⟨member, rfl, rfl⟩
        · rintro ⟨member, rfl, rfl⟩
          exact ⟨value, ⟨member, rfl⟩, (), rfl, rfl⟩
      · simp [variant]
  | null => simp [variant]
  | bool flag => simp [variant]
  | number numeral => simp [variant]
  | array items => simp [variant]

end Variants

end Decoded

namespace Pointer.Style

theorem decode_eq_ok_iff {content : Json} {style : Style} :
    decode content = .ok style ↔
      content = .text style.storedName
        ∨ content = .object [(style.storedName, .null)] := by
  have apart : Function.Injective storedName := by
    intro left right same
    cases left <;> cases right
    · rfl
    · exact absurd same (by decide)
    · exact absurd same (by decide)
    · rfl
  have isStyle : style ∈ all := by
    cases style <;> decide
  rw [decode, Decoded.variant_eq_ok_iff apart, and_iff_right isStyle]

end Pointer.Style

namespace Options

/-! ## Records of settings -/

/-- A setting as a field of a record; a style may also be a key over null. -/
inductive Setting.WrittenAs : Setting → String × Json → Prop where
  | basePath (path : String) :
      WrittenAs (.basePath path) ("base_path", .text path)
  | pointerStyle (style : Pointer.Style) :
      WrittenAs (.pointerStyle style)
        ("pointer_style", .text style.storedName)
  | keyedStyle (style : Pointer.Style) :
      WrittenAs (.pointerStyle style)
        ("pointer_style", .object [(style.storedName, .null)])
  | detectDates (enabled : Bool) :
      WrittenAs (.detectDates enabled) ("detect_dates", .bool enabled)

/-- The field of a setting has its name. -/
theorem Setting.name_of_writtenAs
    {setting : Setting}
    {field : String × Json}
    (written : setting.WrittenAs field) :
    setting.name = field.1 := by
  cases written <;> rfl

/--
A JSON value is a record of settings, none of which is made twice: an object with
each under its name, or an array of the first few in the order of the names.
-/
inductive IsRecordOf : Json → List Setting → Prop where
  | object
      {fields : List (String × Json)}
      {settings : List Setting}
      (written : List.Forall₂ Setting.WrittenAs settings fields)
      (once : (settings.map Setting.name).Nodup) :
      IsRecordOf (.object fields) settings
  | array
      {items : List Json}
      {settings : List Setting}
      (written :
        List.Forall₂ Setting.WrittenAs settings (fieldNames.zip items))
      (fits : items.length ≤ fieldNames.length) :
      IsRecordOf (.array items) settings

theorem map_name_eq_keys
    {settings : List Setting}
    {fields : List (String × Json)}
    (written : List.Forall₂ Setting.WrittenAs settings fields) :
    settings.map Setting.name = Keyed.keys fields := by
  induction written with
  | nil => rfl
  | cons isWritten _ ih =>
      rw [List.map_cons, ih, Setting.name_of_writtenAs isWritten]
      rfl

theorem IsRecordOf.once
    {stored : Json}
    {settings : List Setting}
    (isRecord : IsRecordOf stored settings) :
    (settings.map Setting.name).Nodup := by
  cases isRecord with
  | object _ once => exact once
  | array written _ =>
      rw [map_name_eq_keys written]
      exact Keyed.nodup_keys_zip (by decide) _

/-! ## Fields that are being decoded -/

namespace Fields

/-- No field has been decoded. -/
def blank : Fields :=
  ⟨none, none, none⟩

/-- The fields with what a setting says. -/
def put (fields : Fields) : Setting → Fields
  | .basePath path => { fields with basePath := some path }
  | .pointerStyle style => { fields with pointerStyle := some style }
  | .detectDates enabled => { fields with detectDates := some enabled }

/-- What the setting is about has not been decoded. -/
def Lacks (fields : Fields) : Setting → Prop
  | .basePath _ => fields.basePath = none
  | .pointerStyle _ => fields.pointerStyle = none
  | .detectDates _ => fields.detectDates = none

/-- The options that the fields say, if their base path is valid. -/
def options? (fields : Fields) : Except BasePathError Options :=
  (default.withBasePath (fields.basePath.getD "")).map fun options =>
    (options.withPointerStyle
        (fields.pointerStyle.getD default.pointerStyle)).withDateDetection
      (fields.detectDates.getD default.detectDates)

theorem lacks_blank (setting : Setting) : blank.Lacks setting := by
  cases setting <;> rfl

theorem lacks_put_iff {fields : Fields} {setting other : Setting} :
    (fields.put setting).Lacks other ↔
      fields.Lacks other ∧ setting.name ≠ other.name := by
  cases setting <;> cases other <;> simp [put, Lacks, Setting.name]

/-- After a setting that is made once, what later ones are about is still lacking. -/
theorem lacks_put_of_once
    {fields : Fields}
    {setting : Setting}
    {rest : List Setting}
    (fresh : setting.name ∉ rest.map Setting.name)
    (lacks : ∀ later ∈ rest, fields.Lacks later) :
    ∀ later ∈ rest, (fields.put setting).Lacks later := by
  intro later isLater
  refine lacks_put_iff.mpr ⟨lacks later isLater, ?_⟩
  intro same
  exact fresh (same ▸ List.mem_map_of_mem isLater)

/-- To take a setting up is to make it on the options. -/
theorem options?_put
    {fields : Fields}
    {setting : Setting}
    (lacks : fields.Lacks setting) :
    (fields.put setting).options? =
      fields.options? >>= fun options => options.set? setting := by
  cases setting with
  | basePath path =>
      have empty : fields.basePath = none := lacks
      -- the empty base path stood in until now, and nothing refuses that
      rw [options?, options?, empty]
      show (default.withBasePath path).map _ = (_ : Options).withBasePath path
      rw [withBasePath, withBasePath]
      cases checkBasePath path <;> rfl
  | pointerStyle style =>
      rw [options?, options?, put]
      cases default.withBasePath (fields.basePath.getD "") <;> rfl
  | detectDates enabled =>
      rw [options?, options?, put]
      cases default.withBasePath (fields.basePath.getD "") <;> rfl

theorem options?_foldl_put
    {fields : Fields}
    {settings : List Setting}
    (once : (settings.map Setting.name).Nodup)
    (lacks : ∀ setting ∈ settings, fields.Lacks setting) :
    (settings.foldl put fields).options? =
      fields.options? >>= fun options => settings.foldlM set? options := by
  induction settings generalizing fields with
  | nil => exact (bind_pure fields.options?).symm
  | cons setting rest ih =>
      rcases List.nodup_cons.mp once with ⟨fresh, laterOnce⟩
      rw [List.forall_mem_cons] at lacks
      rw [List.foldl_cons, ih laterOnce (lacks_put_of_once fresh lacks.2),
        options?_put lacks.1, bind_assoc]
      rfl

end Fields

/-- A field is decoded if it is a setting about what no field has said yet. -/
theorem decodeField_eq_ok_iff
    {fields later : Fields}
    {field : String × Json} :
    decodeField fields field = .ok later ↔
      ∃ setting : Setting, setting.WrittenAs field
        ∧ fields.Lacks setting ∧ fields.put setting = later := by
  rcases field with ⟨name, content⟩
  constructor
  · intro decoded
    rw [decodeField] at decoded
    split at decoded
    · next isName =>
        rcases Decoded.once_bind_eq_ok_iff.mp decoded with
          ⟨lacks, path, isPath, rfl⟩
        cases isName
        cases Decoded.text_eq_ok_iff.mp isPath
        exact ⟨.basePath path, .basePath path, lacks, rfl⟩
    · next isName =>
        rcases Decoded.once_bind_eq_ok_iff.mp decoded with
          ⟨lacks, style, isStyle, rfl⟩
        cases isName
        rcases Pointer.Style.decode_eq_ok_iff.mp isStyle with rfl | rfl
        · exact ⟨.pointerStyle style, .pointerStyle style, lacks, rfl⟩
        · exact ⟨.pointerStyle style, .keyedStyle style, lacks, rfl⟩
    · next isName =>
        rcases Decoded.once_bind_eq_ok_iff.mp decoded with
          ⟨lacks, enabled, isEnabled, rfl⟩
        cases isName
        cases Decoded.boolean_eq_ok_iff.mp isEnabled
        exact ⟨.detectDates enabled, .detectDates enabled, lacks, rfl⟩
    · cases decoded
  · rintro ⟨setting, written, lacks, rfl⟩
    cases written with
    | basePath path =>
        exact
          Decoded.once_bind_eq_ok_iff.mpr
            ⟨lacks, path, Decoded.text_eq_ok_iff.mpr rfl, rfl⟩
    | pointerStyle style =>
        exact
          Decoded.once_bind_eq_ok_iff.mpr
            ⟨lacks, style, Pointer.Style.decode_eq_ok_iff.mpr (Or.inl rfl), rfl⟩
    | keyedStyle style =>
        exact
          Decoded.once_bind_eq_ok_iff.mpr
            ⟨lacks, style, Pointer.Style.decode_eq_ok_iff.mpr (Or.inr rfl), rfl⟩
    | detectDates enabled =>
        exact
          Decoded.once_bind_eq_ok_iff.mpr
            ⟨lacks, enabled, Decoded.boolean_eq_ok_iff.mpr rfl, rfl⟩

/-- Fields are decoded if they are settings about something of their own each. -/
theorem foldlM_decodeField_eq_ok_iff
    {fields later : Fields}
    {given : List (String × Json)} :
    given.foldlM decodeField fields = .ok later ↔
      ∃ settings : List Setting,
        List.Forall₂ Setting.WrittenAs settings given
          ∧ (settings.map Setting.name).Nodup
          ∧ (∀ setting ∈ settings, fields.Lacks setting)
          ∧ settings.foldl Fields.put fields = later := by
  induction given generalizing fields with
  | nil =>
      constructor
      · rintro ⟨⟩
        exact ⟨[], .nil, .nil, by simp, rfl⟩
      · rintro ⟨settings, written, -, -, rfl⟩
        cases written
        rfl
  | cons field rest ih =>
      rw [List.foldlM_cons, bind_eq_ok_iff]
      constructor
      · rintro ⟨middle, isMiddle, decoded⟩
        rcases decodeField_eq_ok_iff.mp isMiddle with
          ⟨setting, isWritten, lacks, rfl⟩
        rcases ih.mp decoded with ⟨settings, written, once, laterLacks, isLater⟩
        -- the later fields found theirs lacking after this one was taken up
        simp only [Fields.lacks_put_iff, forall_and] at laterLacks
        refine ⟨setting :: settings, .cons isWritten written, ?_, ?_, isLater⟩
        · refine List.nodup_cons.mpr ⟨?_, once⟩
          intro again
          rcases List.mem_map.mp again with ⟨other, isOther, same⟩
          exact laterLacks.2 other isOther same.symm
        · exact List.forall_mem_cons.mpr ⟨lacks, laterLacks.1⟩
      · rintro ⟨settings, written, once, lacks, rfl⟩
        cases written with
        | @cons setting _ settings _ isWritten written =>
            rcases List.nodup_cons.mp once with ⟨fresh, laterOnce⟩
            rw [List.forall_mem_cons] at lacks
            exact
              ⟨fields.put setting,
                decodeField_eq_ok_iff.mpr ⟨setting, isWritten, lacks.1, rfl⟩,
                ih.mpr
                  ⟨settings, written, laterOnce,
                    Fields.lacks_put_of_once fresh lacks.2, rfl⟩⟩

/-- What is decoded is a record of settings, and the fields are what they say. -/
theorem decodeFields_eq_ok_iff
    {stored : Json}
    {fields : Fields} :
    decodeFields stored = .ok fields ↔
      ∃ settings, IsRecordOf stored settings
        ∧ settings.foldl Fields.put Fields.blank = fields := by
  cases stored with
  | object given =>
      show given.foldlM decodeField Fields.blank = .ok fields ↔ _
      rw [foldlM_decodeField_eq_ok_iff]
      constructor
      · rintro ⟨settings, written, once, -, isLater⟩
        exact ⟨settings, .object written once, isLater⟩
      · rintro ⟨settings, isRecord, isLater⟩
        cases isRecord with
        | object written once =>
            exact
              ⟨settings, written, once, fun _ _ => Fields.lacks_blank _, isLater⟩
  | array items =>
      rw [decodeFields, bind_eq_ok_iff]
      constructor
      · rintro ⟨decoded, isDecoded, fits⟩
        rcases foldlM_decodeField_eq_ok_iff.mp isDecoded with
          ⟨settings, written, -, -, isLater⟩
        split at fits
        · cases fits
        · next short =>
            cases fits
            exact ⟨settings, .array written (Nat.not_lt.mp short), isLater⟩
      · rintro ⟨settings, isRecord, isLater⟩
        -- an array cannot give a name twice, so this is no condition on it
        have once := isRecord.once
        cases isRecord with
        | array written fits =>
            refine
              ⟨fields,
                foldlM_decodeField_eq_ok_iff.mpr
                  ⟨settings, written, once, fun _ _ => Fields.lacks_blank _,
                    isLater⟩, ?_⟩
            exact if_neg (Nat.not_lt.mpr fits)
  | null | bool _ | number _ | text _ =>
      constructor
      · rintro ⟨⟩
      · rintro ⟨settings, ⟨⟩, -⟩

/-! ## Decoding options -/

theorem decode_eq_bind (stored : Json) :
    decode stored =
      decodeFields stored >>= fun fields =>
        fields.options?.mapError DecodeError.basePath := by
  rw [decode]
  congr 1
  funext fields
  rw [Fields.options?]
  cases default.withBasePath (fields.basePath.getD "") <;> rfl

/-- To decode a record is to make its settings on the default options. -/
theorem decode_of_isRecordOf
    {stored : Json}
    {settings : List Setting}
    (isRecord : IsRecordOf stored settings) :
    decode stored =
      (settings.foldlM set? default).mapError DecodeError.basePath := by
  rw [decode_eq_bind, decodeFields_eq_ok_iff.mpr ⟨settings, isRecord, rfl⟩]
  show (settings.foldl Fields.put Fields.blank).options?.mapError _ = _
  rw [Fields.options?_foldl_put isRecord.once fun _ _ => Fields.lacks_blank _]
  rfl

/-- What is decoded is a record of settings that are all accepted. -/
theorem decode_eq_ok_iff {stored : Json} {options : Options} :
    decode stored = .ok options ↔
      ∃ settings, IsRecordOf stored settings
        ∧ settings.foldlM set? default = .ok options := by
  constructor
  · intro decoded
    have inSteps := decoded
    -- the fields are decoded first, and that makes it a record
    rw [decode_eq_bind, bind_eq_ok_iff] at inSteps
    rcases inSteps with ⟨fields, isFields, -⟩
    rcases decodeFields_eq_ok_iff.mp isFields with ⟨settings, isRecord, -⟩
    rw [decode_of_isRecordOf isRecord, mapError_eq_ok_iff] at decoded
    exact ⟨settings, isRecord, decoded⟩
  · rintro ⟨settings, isRecord, accepted⟩
    rw [decode_of_isRecordOf isRecord, accepted]
    rfl

/-- A base path in a record is accepted or refused as options do it. -/
theorem map_basePath_decode
    {stored : Json}
    {settings : List Setting}
    (isRecord : IsRecordOf stored settings)
    {path : String}
    (member : .basePath path ∈ settings)
    (options : Options) :
    (decode stored).map basePath =
      ((options.withBasePath path).map basePath).mapError
        DecodeError.basePath := by
  rw [decode_of_isRecordOf isRecord, map_mapError,
    map_basePath_foldlM_of_mem isRecord.once member,
    map_basePath_withBasePath]

theorem isRecordOf_toJson (options : Options) :
    IsRecordOf options.toJson
      [.basePath options.basePath, .pointerStyle options.pointerStyle,
        .detectDates options.detectDates] := by
  refine .object ?_ ?_
  · exact
      .cons (.basePath _)
        (.cons (.pointerStyle _) (.cons (.detectDates _) .nil))
  · show fieldNames.Nodup
    decide

/-- Stored options are decoded again. -/
theorem decode_toJson
    {options : Options}
    (valid : ValidBasePath options.basePath) :
    decode options.toJson = .ok options := by
  refine decode_eq_ok_iff.mpr ⟨_, isRecordOf_toJson options, ?_⟩
  have accepted : default.withBasePath options.basePath = .ok _ :=
    withBasePath_eq_ok_iff.mpr ⟨valid, rfl⟩
  rw [List.foldlM_cons, set?, accepted]
  rfl

/-- The text of stored options is read again. -/
theorem readsBack_toJson (options : Options) : options.toJson.ReadsBack := by
  have readable : Json.Readable 1 options.toJson := by
    refine .object (by simp [Keyed.keys]) fun key value member => ?_
    simp only [List.mem_cons, List.not_mem_nil, or_false, Prod.mk.injEq]
      at member
    rcases member with ⟨-, rfl⟩ | ⟨-, rfl⟩ | ⟨-, rfl⟩
    · exact .text _
    · exact .text _
    · exact .bool _
  exact (readable.mono (by decide)).readsBack

/-! ## Options that a user can come to -/

/-- The options come about by settings, from the default ones or from decoded ones. -/
def Reachable (options : Options) : Prop :=
  ∃ start settings,
    (start = default ∨ ∃ stored, decode stored = .ok start)
      ∧ options = start.setAll settings

/-- Decoded options are nothing new: settings lead to them from the default ones. -/
theorem Reachable.exists_setAll
    {options : Options}
    (reachable : options.Reachable) :
    ∃ settings, options = default.setAll settings := by
  rcases reachable with ⟨start, settings, rfl | ⟨stored, decoded⟩, rfl⟩
  · exact ⟨settings, rfl⟩
  · rcases decode_eq_ok_iff.mp decoded with ⟨before, -, accepted⟩
    refine ⟨before ++ settings, ?_⟩
    rw [setAll_append, setAll_of_foldlM_set? accepted]

theorem Reachable.validBasePath
    {options : Options}
    (reachable : options.Reachable) :
    ValidBasePath options.basePath := by
  rcases reachable.exists_setAll with ⟨settings, rfl⟩
  exact validBasePath_setAll validBasePath_default settings

end Options

end LeafPatch
