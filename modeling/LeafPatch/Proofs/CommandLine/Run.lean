import LeafPatch.CommandLine.Run
import LeafPatch.Proofs.Attempt
import LeafPatch.Proofs.Document.Yaml
import LeafPatch.Proofs.Options
import LeafPatch.Proofs.Patch.Clean

/-!
# What the command leaves behind

Whether the command writes a patch can be told before there is one: from its
arguments, from what can be read, and from whether there is a null or boolean in
what has been read.  If anything is wrong it ends with the code 2 and nothing is
written.  Otherwise it writes the patch between the two documents in the chosen
form, and the code says whether that has operations.

The inputs are one or two paths.  More than two in a row are refused when the
arguments are read; where an option stands between them more can come through,
and then the command fails.
-/

namespace LeafPatch.CommandLine

namespace Arguments

/-! ## What the arguments say -/

/-- The sources that the inputs name; a single one is completed by the standard input. -/
def namedSources (arguments : Arguments) : List Source :=
  match arguments.inputs with
  | [stored] => [.file stored, .standardInput]
  | inputs => inputs.map .file

/-- The options that the arguments choose, if the base path is valid. -/
def chosenOptions (arguments : Arguments) : Options :=
  ⟨arguments.basePath.getD "",
    if arguments.has .escapeKeys then .escaped else .raw,
    arguments.has .detectDates⟩

/-- The text from a source can be read and is that of a document in the chosen syntax. -/
def Holds
    (arguments : Arguments)
    (readable : Readable)
    (source : Source)
    (document : Document) :
    Prop :=
  ∃ text, readable source = .ok text
    ∧ Document.read (if arguments.has .yaml then .yaml else .json)
        (arguments.has .detectDates) text =
        .ok document

/-- What can be wrong before anything is written. -/
inductive Fails (arguments : Arguments) (readable : Readable) : Prop where
  | inputCount
      (notOne : arguments.inputs.length ≠ 1)
      (notTwo : arguments.inputs.length ≠ 2)
  | emptyPath (member : "" ∈ arguments.inputs)
  | basePath
      (invalid : ¬ Options.ValidBasePath (arguments.basePath.getD ""))
  | noDocument
      {source : Source}
      (named : source ∈ arguments.namedSources)
      (missing : ∀ document, ¬ arguments.Holds readable source document)
  | unrecognized
      {source : Source}
      {document : Document}
      (strict : arguments.has .allowPartial = false)
      (named : source ∈ arguments.namedSources)
      (holds : arguments.Holds readable source document)
      (found : document.hasUnrecognized = true)

/-! ## Reading what is compared -/

theorem sourceOf_eq_ok_iff
    {path : String}
    {source : Source} :
    sourceOf path = .ok source ↔ "" ≠ path ∧ source = .file path := by
  simp only [sourceOf, String.isEmpty_iff]
  by_cases isEmpty : path = ""
  · simp [isEmpty]
  · rw [if_neg isEmpty, Except.ok.injEq]
    constructor
    · rintro rfl
      exact ⟨Ne.symm isEmpty, rfl⟩
    · rintro ⟨-, rfl⟩
      rfl

section Read

variable
    {arguments : Arguments}
    {readable : Readable}

theorem sources_eq_ok_iff {stored edited : Source} :
    arguments.sources = .ok ⟨stored, edited⟩ ↔
      arguments.namedSources = [stored, edited] ∧ "" ∉ arguments.inputs := by
  rw [sources, namedSources]
  rcases arguments.inputs with - | ⟨first, - | ⟨second, - | ⟨third, rest⟩⟩⟩
  · simp
  · constructor
    · intro named
      rcases bind_eq_ok_iff.mp named with ⟨source, isSource, ⟨⟩⟩
      rcases sourceOf_eq_ok_iff.mp isSource with ⟨nonempty, rfl⟩
      exact ⟨rfl, by simpa using nonempty⟩
    · rintro ⟨⟨⟩, nonempty⟩
      rw [List.mem_singleton] at nonempty
      exact
        bind_eq_ok_iff.mpr ⟨_, sourceOf_eq_ok_iff.mpr ⟨nonempty, rfl⟩, rfl⟩
  · constructor
    · intro named
      rcases bind_eq_ok_iff.mp named with ⟨source, isSource, named⟩
      rcases bind_eq_ok_iff.mp named with ⟨target, isTarget, ⟨⟩⟩
      rcases sourceOf_eq_ok_iff.mp isSource with ⟨nonempty, rfl⟩
      rcases sourceOf_eq_ok_iff.mp isTarget with ⟨otherNonempty, rfl⟩
      refine ⟨rfl, ?_⟩
      rw [List.mem_pair, not_or]
      exact ⟨nonempty, otherNonempty⟩
    · rintro ⟨⟨⟩, nonempty⟩
      rw [List.mem_pair, not_or] at nonempty
      rcases nonempty with ⟨nonempty, otherNonempty⟩
      exact
        bind_eq_ok_iff.mpr
          ⟨_, sourceOf_eq_ok_iff.mpr ⟨nonempty, rfl⟩,
            bind_eq_ok_iff.mpr
              ⟨_, sourceOf_eq_ok_iff.mpr ⟨otherNonempty, rfl⟩, rfl⟩⟩
  · simp

theorem options_eq_ok_iff {options : Options} :
    arguments.options = .ok options ↔
      Options.ValidBasePath (arguments.basePath.getD "")
        ∧ options = arguments.chosenOptions := by
  rw [Arguments.options, bind_eq_ok_iff]
  simp only [mapError_eq_ok_iff, Options.withBasePath_eq_ok_iff]
  constructor
  · rintro ⟨based, ⟨valid, rfl⟩, ⟨⟩⟩
    exact ⟨valid, rfl⟩
  · rintro ⟨valid, rfl⟩
    exact ⟨_, ⟨valid, rfl⟩, rfl⟩

theorem holds_iff
    {source : Source}
    {document : Document} :
    arguments.Holds readable source document ↔
      ∃ text, readText readable source = .ok text
        ∧ arguments.readDocument arguments.chosenOptions source text =
            .ok document := by
  simp only [Holds, readText, readDocument, mapError_eq_ok_iff]
  rfl

theorem Holds.distinct
    {source : Source}
    {document : Document}
    (holds : arguments.Holds readable source document) :
    document.DistinctKeys := by
  rcases holds with ⟨text, -, isRead⟩
  exact Document.distinctKeys_of_read isRead

/-- A source holds one document at most. -/
theorem Holds.unique
    {source : Source}
    {document other : Document}
    (holds : arguments.Holds readable source document)
    (holdsOther : arguments.Holds readable source other) :
    document = other := by
  rcases holds with ⟨text, isText, isRead⟩
  rcases holdsOther with ⟨otherText, isOtherText, isOtherRead⟩
  cases isText.symm.trans isOtherText
  cases isRead.symm.trans isOtherRead
  rfl

theorem policy_admits_iff {stored edited : Document} :
    arguments.policy.Admits stored edited ↔
      (arguments.has .allowPartial = false →
        stored.hasUnrecognized = false ∧ edited.hasUnrecognized = false) := by
  rw [SubmitPolicy.admits_iff, policy]
  cases arguments.has .allowPartial <;> simp

/-- There is a patch if nothing is wrong on the way to it. -/
theorem patch_eq_ok_iff {patch : Patch} :
    arguments.patch readable = .ok patch ↔
      ∃ source target stored edited,
        arguments.namedSources = [source, target]
          ∧ "" ∉ arguments.inputs
          ∧ Options.ValidBasePath (arguments.basePath.getD "")
          ∧ arguments.Holds readable source stored
          ∧ arguments.Holds readable target edited
          ∧ arguments.policy.Admits stored edited
          ∧ patch = stored.patchTo edited arguments.chosenOptions := by
  unfold Arguments.patch
  constructor
  · intro compared
    rcases bind_eq_ok_iff.mp compared with ⟨⟨source, target⟩, named, compared⟩
    rcases bind_eq_ok_iff.mp compared with ⟨options, chosen, compared⟩
    rcases options_eq_ok_iff.mp chosen with ⟨valid, rfl⟩
    rcases bind_eq_ok_iff.mp compared with ⟨storedText, isStoredText, compared⟩
    rcases bind_eq_ok_iff.mp compared with ⟨editedText, isEditedText, compared⟩
    rcases bind_eq_ok_iff.mp compared with ⟨stored, isStored, compared⟩
    rcases bind_eq_ok_iff.mp compared with ⟨edited, isEdited, compared⟩
    rcases bind_eq_ok_iff.mp compared with ⟨operations, submitted, ⟨⟩⟩
    have holdsStored := holds_iff.mpr ⟨storedText, isStoredText, isStored⟩
    have holdsEdited := holds_iff.mpr ⟨editedText, isEditedText, isEdited⟩
    rw [mapError_eq_ok_iff,
      Document.submit_patchTo_eq_ok_iff holdsStored.distinct
        holdsEdited.distinct] at submitted
    rcases sources_eq_ok_iff.mp named with ⟨named, nonempty⟩
    exact
      ⟨source, target, stored, edited, named, nonempty, valid, holdsStored,
        holdsEdited, submitted.1, rfl⟩
  · rintro
      ⟨source, target, stored, edited, named, nonempty, valid, holdsStored,
        holdsEdited, admits, rfl⟩
    rcases holds_iff.mp holdsStored with ⟨storedText, isStoredText, isStored⟩
    rcases holds_iff.mp holdsEdited with ⟨editedText, isEditedText, isEdited⟩
    have submitted :=
      (Document.submit_patchTo_eq_ok_iff holdsStored.distinct
        holdsEdited.distinct arguments.chosenOptions).mpr ⟨admits, rfl⟩
    rw [sources_eq_ok_iff.mpr ⟨named, nonempty⟩,
      options_eq_ok_iff.mpr ⟨valid, rfl⟩]
    simp [bind, Except.bind, isStoredText, isEditedText, isStored, isEdited,
      submitted, Except.mapError, pure, Except.pure]

theorem exists_namedSources_iff :
    (∃ source target, arguments.namedSources = [source, target]) ↔
      arguments.inputs.length = 1 ∨ arguments.inputs.length = 2 := by
  rw [namedSources]
  rcases arguments.inputs with - | ⟨first, - | ⟨second, - | ⟨third, rest⟩⟩⟩ <;>
    simp

/-! ## Nothing is wrong -/

theorem not_fails_of_patch_eq_ok
    {patch : Patch}
    (compared : arguments.patch readable = .ok patch) :
    ¬ arguments.Fails readable := by
  rcases patch_eq_ok_iff.mp compared with
    ⟨source, target, stored, edited, named, nonempty, valid, holdsStored,
      holdsEdited, admits, -⟩
  -- No source is named besides these two, and each of them holds one document only.
  have holds :
      ∀ other ∈ arguments.namedSources,
        arguments.Holds readable other stored
          ∨ arguments.Holds readable other edited := by
    intro other member
    rw [named, List.mem_pair] at member
    rcases member with rfl | rfl
    · exact Or.inl holdsStored
    · exact Or.inr holdsEdited
  intro fails
  cases fails with
  | inputCount notOne notTwo =>
      rcases exists_namedSources_iff.mp ⟨source, target, named⟩ with one | two
      · exact notOne one
      · exact notTwo two
  | emptyPath member => exact nonempty member
  | basePath invalid => exact invalid valid
  | noDocument member missing =>
      rcases holds _ member with isStored | isEdited
      · exact missing stored isStored
      · exact missing edited isEdited
  | unrecognized strict member holdsOther found =>
      rcases policy_admits_iff.mp admits strict with
        ⟨recognizedStored, recognizedEdited⟩
      rcases holds _ member with isStored | isEdited
      · rw [holdsOther.unique isStored, recognizedStored] at found
        cases found
      · rw [holdsOther.unique isEdited, recognizedEdited] at found
        cases found

section Sound

variable (sound : ¬ arguments.Fails readable)

include sound

theorem exists_holds_of_not_fails
    {source : Source}
    (named : source ∈ arguments.namedSources) :
    ∃ document, arguments.Holds readable source document := by
  by_contra missing
  exact sound (.noDocument named (not_exists.mp missing))

theorem recognized_of_not_fails
    (strict : arguments.has .allowPartial = false)
    {source : Source}
    {document : Document}
    (named : source ∈ arguments.namedSources)
    (holds : arguments.Holds readable source document) :
    document.hasUnrecognized = false := by
  by_contra found
  rw [Bool.not_eq_false] at found
  exact sound (.unrecognized strict named holds found)

theorem exists_namedSources_of_not_fails :
    ∃ source target, arguments.namedSources = [source, target] := by
  rw [exists_namedSources_iff]
  by_contra other
  rw [not_or] at other
  exact sound (.inputCount other.1 other.2)

theorem exists_patch_of_not_fails :
    ∃ patch, arguments.patch readable = .ok patch := by
  rcases exists_namedSources_of_not_fails sound with ⟨source, target, named⟩
  have sourceNamed : source ∈ arguments.namedSources := by simp [named]
  have targetNamed : target ∈ arguments.namedSources := by simp [named]
  rcases exists_holds_of_not_fails sound sourceNamed with ⟨stored, holdsStored⟩
  rcases exists_holds_of_not_fails sound targetNamed with ⟨edited, holdsEdited⟩
  have admits : arguments.policy.Admits stored edited := by
    rw [policy_admits_iff]
    intro strict
    exact
      ⟨recognized_of_not_fails sound strict sourceNamed holdsStored,
        recognized_of_not_fails sound strict targetNamed holdsEdited⟩
  have nonempty : "" ∉ arguments.inputs := by
    intro member
    exact sound (.emptyPath member)
  have valid : Options.ValidBasePath (arguments.basePath.getD "") := by
    by_contra invalid
    exact sound (.basePath invalid)
  exact
    ⟨_, patch_eq_ok_iff.mpr
      ⟨source, target, stored, edited, named, nonempty, valid, holdsStored,
        holdsEdited, admits, rfl⟩⟩

end Sound

end Read

/-! ## What is written -/

theorem codeOf_eq (patch : Patch) :
    Outcome.codeOf patch = if patch.operations = [] then 0 else 1 := by
  simp only [Outcome.codeOf, Patch.isEmpty, List.isEmpty_iff]

/-- A patch is written as JSON unless its text is asked for; JSON ends with a line feed. -/
theorem render_eq
    (arguments : Arguments)
    (patch : Patch) :
    arguments.render patch =
      match arguments.format with
      | some .text => patch.renderText (arguments.has .color)
      | some .strict => patch.renderJson .strict ++ "\n"
      | _ => patch.renderJson .full ++ "\n" := by
  rw [render]
  rcases arguments.format with - | - | - | - <;> rfl

/-- What the command leaves behind, told from its arguments and from what can be read.

If anything is wrong, there is a message and the code 2.  Otherwise it is the
patch in the chosen form, in the file for the output or else on the standard
output, and the code tells whether the patch has operations.  Only writing the
file can still go wrong then. -/
theorem run_outcome
    (arguments : Arguments)
    (readable : Readable)
    (writeError : String → Option FileError) :
    (arguments.Fails readable →
      ∃ message,
        arguments.run readable writeError = ⟨2, "", some message, none⟩)
      ∧ (¬ arguments.Fails readable →
        ∃ source target stored edited patch text exitCode,
          arguments.namedSources = [source, target]
            ∧ arguments.Holds readable source stored
            ∧ arguments.Holds readable target edited
            ∧ patch = stored.patchTo edited arguments.chosenOptions
            ∧ text =
              (match arguments.format with
              | some .text => patch.renderText (arguments.has .color)
              | some .strict => patch.renderJson .strict ++ "\n"
              | _ => patch.renderJson .full ++ "\n")
            ∧ exitCode = (if patch.operations = [] then 0 else 1)
            ∧ (arguments.output = none →
              arguments.run readable writeError =
                ⟨exitCode, text, none, none⟩)
            ∧ ∀ path, arguments.output = some path →
              (writeError path = none →
                arguments.run readable writeError =
                  ⟨exitCode, "", none, some (path, text)⟩)
              ∧ ∀ reason, writeError path = some reason →
                (arguments.run readable writeError).exitCode = 2
                  ∧ (arguments.run readable writeError).standardOutput = "") := by
  constructor
  · intro fails
    cases compared : arguments.patch readable with
    | error failure =>
        refine ⟨failure.message, ?_⟩
        rw [run, compared]
        rfl
    | ok patch =>
        exact absurd fails (not_fails_of_patch_eq_ok compared)
  · intro sound
    rcases exists_patch_of_not_fails sound with ⟨patch, compared⟩
    rcases patch_eq_ok_iff.mp compared with
      ⟨source, target, stored, edited, named, -, -, holdsStored, holdsEdited, -,
        isPatch⟩
    refine
      ⟨source, target, stored, edited, patch, arguments.render patch,
        Outcome.codeOf patch, named, holdsStored, holdsEdited, isPatch,
        render_eq arguments patch, codeOf_eq patch, ?_, ?_⟩
    · intro toStandardOutput
      simp [run, compared, deliver, toStandardOutput]
    · intro path toFile
      constructor
      · intro writable
        simp [run, compared, deliver, toFile, writable]
      · intro reason unwritable
        simp [run, compared, deliver, toFile, unwritable, Outcome.ofFailure]

/-- An item that differs is written to a file with the code 1; where none does, the code is 0. -/
theorem run_outcome_oneItem :
    let arguments : Arguments :=
      { Arguments.empty with
        format := some .text
        output := some "patch"
        inputs := ["node"] }
    let differing : Readable
      | .file _ => .ok "[\"x\"]"
      | .standardInput => .ok "[\"y\"]"
    let same : Readable := fun _ => .ok "[\"x\"]"
    Request.ofArguments ["node", "-f", "text", "-o", "patch"] =
        .ok (.compare arguments)
      ∧ ¬ arguments.Fails differing
      ∧ arguments.run differing (fun _ => none) =
        ⟨1, "", none, some ("patch", "~ /0 \"y\"\n")⟩
      ∧ ¬ arguments.Fails same
      ∧ arguments.run same (fun _ => none) =
        ⟨0, "", none, some ("patch", "")⟩ := by
  intro arguments differing same
  have outcome
      {readable : Readable}
      {stored edited : Document}
      (admits : arguments.policy.Admits stored edited)
      (holdsStored : arguments.Holds readable (.file "node") stored)
      (holdsEdited : arguments.Holds readable .standardInput edited) :
      let patch := stored.patchTo edited arguments.chosenOptions
      ¬ arguments.Fails readable
        ∧ arguments.run readable (fun _ => none) =
          ⟨if patch.operations = [] then 0 else 1, "", none,
            some ("patch", patch.renderText false)⟩ := by
    have sound : ¬ arguments.Fails readable :=
      not_fails_of_patch_eq_ok
        (patch_eq_ok_iff.mpr
          ⟨_, _, _, _, rfl, by decide, Or.inl rfl, holdsStored, holdsEdited,
            admits, rfl⟩)
    rcases (run_outcome arguments readable fun _ => none).2 sound with
      ⟨source, target, first, second, patch, text, exitCode, named, holdsFirst,
        holdsSecond, rfl, rfl, rfl, -, toFile⟩
    cases named
    cases holdsFirst.unique holdsStored
    cases holdsSecond.unique holdsEdited
    exact ⟨sound, (toFile "patch" rfl).1 rfl⟩
  have holdsX :
      arguments.Holds same .standardInput
        (.collection .sequence [("0", .ofText "x")]) :=
    ⟨_, rfl, rfl⟩
  have holdsY :
      arguments.Holds differing .standardInput
        (.collection .sequence [("0", .ofText "y")]) :=
    ⟨_, rfl, rfl⟩
  rcases outcome (Or.inr ⟨rfl, rfl⟩) holdsX holdsY with ⟨sound, changed⟩
  rcases outcome (Or.inr ⟨rfl, rfl⟩) holdsX holdsX with
    ⟨alsoSound, unchanged⟩
  exact ⟨rfl, sound, changed, alsoSound, unchanged⟩

/-- The same in the other syntax, to the standard output. -/
example :
    outcome ["node", "--yaml", "-f", "text"]
        (fun
          | .file _ => .ok "- x"
          | .standardInput => .ok "- y")
        (fun _ => none) =
      ⟨1, "~ /0 \"y\"\n", none, none⟩ := by
  decide +kernel

/-- A third input comes through behind an option, and then nothing is written though every
source holds a document. -/
theorem run_not_outcome_threeInputs :
    ∃ arguments,
      Request.ofArguments ["a.json", "-v", "b.json", "c.json"] =
          .ok (.compare arguments)
        ∧ "" ∉ arguments.inputs
        ∧ Options.ValidBasePath (arguments.basePath.getD "")
        ∧ (∀ source,
          arguments.Holds (fun _ => .ok "[]") source (.collection .sequence []))
        ∧ (Document.collection .sequence []).hasUnrecognized = false
        ∧ arguments.output = none
        ∧ arguments.run (fun _ => .ok "[]") (fun _ => none) =
          ⟨2, "", some "expected SOURCE and optional TARGET", none⟩ := by
  refine ⟨_, rfl, by decide, Or.inl rfl, ?_, rfl, rfl, by decide +kernel⟩
  intro source
  exact ⟨"[]", rfl, rfl⟩

end Arguments

end LeafPatch.CommandLine
