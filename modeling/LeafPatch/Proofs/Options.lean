import LeafPatch.Options
import LeafPatch.Proofs.Attempt

/-!
# Base paths that are valid

A base path is valid if it is empty, or if it starts with a slash and does not end
with one.  Options are given another base path exactly if that is valid.

A user makes settings one after the other.  One that is refused, a base path that
is not valid, leaves the options as they are, and so whatever the settings are,
the base path stays valid.  If nothing is refused the settings can also be made
as the steps of one attempt.
-/

namespace LeafPatch.Options

/-- The base path is empty, or it starts with a slash and does not end with one. -/
def ValidBasePath (path : String) : Prop :=
  path = ""
    ∨ (path.toList.head? = some '/' ∧ path.toList.getLast? ≠ some '/')

theorem checkBasePath_eq_ok_iff {path : String} :
    checkBasePath path = .ok () ↔ ValidBasePath path := by
  rw [checkBasePath, ValidBasePath, ← String.toList_eq_nil_iff]
  cases path.toList with
  | nil => simp
  | cons first rest =>
      by_cases relative : first = '/'
      · by_cases trailing : (first :: rest).getLast? = some '/'
        · simp [relative, relative ▸ trailing]
        · simp [relative, relative ▸ trailing]
      · simp [relative]

theorem withBasePath_eq_ok_iff
    {options changed : Options}
    {path : String} :
    options.withBasePath path = .ok changed ↔
      ValidBasePath path ∧ changed = { options with basePath := path } := by
  rw [withBasePath, ← checkBasePath_eq_ok_iff]
  cases checkBasePath path with
  | error reason => simp
  | ok valid => simp [eq_comm]

/-- What becomes of a base path does not depend on the options that are given it. -/
theorem map_basePath_withBasePath (options : Options) (path : String) :
    (options.withBasePath path).map basePath =
      (checkBasePath path).map fun _ => path := by
  rw [withBasePath]
  cases checkBasePath path <;> rfl

theorem validBasePath_default : ValidBasePath default.basePath :=
  Or.inl rfl

/-! ## Settings -/

/-- A choice that a user makes about options. -/
inductive Setting where
  | basePath (path : String)
  | pointerStyle (style : Pointer.Style)
  | detectDates (enabled : Bool)

/-- The name of what a setting is about. -/
def Setting.name : Setting → String
  | basePath _ => "base_path"
  | pointerStyle _ => "pointer_style"
  | detectDates _ => "detect_dates"

/-- The options with a setting, unless that is a base path that is not valid. -/
def set? (options : Options) : Setting → Except BasePathError Options
  | .basePath path => options.withBasePath path
  | .pointerStyle style => .ok (options.withPointerStyle style)
  | .detectDates enabled => .ok (options.withDateDetection enabled)

/-- The options after a setting; one that is refused leaves them as they are. -/
def set (options : Options) (setting : Setting) : Options :=
  match options.set? setting with
  | .ok changed => changed
  | .error _ => options

/-- The options after settings, one after the other. -/
def setAll (options : Options) (settings : List Setting) : Options :=
  settings.foldl set options

theorem validBasePath_set
    {options : Options}
    (valid : ValidBasePath options.basePath)
    (setting : Setting) :
    ValidBasePath (options.set setting).basePath := by
  rw [set]
  cases setting with
  | basePath path =>
      cases changed : options.set? (.basePath path) with
      | error reason => exact valid
      | ok after =>
          rcases withBasePath_eq_ok_iff.mp changed with ⟨validPath, rfl⟩
          exact validPath
  | pointerStyle style => exact valid
  | detectDates enabled => exact valid

/-- No settings make a valid base path invalid. -/
theorem validBasePath_setAll
    {options : Options}
    (valid : ValidBasePath options.basePath)
    (settings : List Setting) :
    ValidBasePath (options.setAll settings).basePath := by
  induction settings generalizing options with
  | nil => exact valid
  | cons setting rest ih => exact ih (validBasePath_set valid setting)

theorem setAll_append (options : Options) (settings others : List Setting) :
    options.setAll (settings ++ others) =
      (options.setAll settings).setAll others :=
  List.foldl_append

/-! ## Settings as one attempt -/

/-- Settings that are all accepted lead where they lead one by one. -/
theorem setAll_of_foldlM_set?
    {options changed : Options}
    {settings : List Setting}
    (accepted : settings.foldlM set? options = .ok changed) :
    options.setAll settings = changed := by
  induction settings generalizing options with
  | nil =>
      cases accepted
      rfl
  | cons setting rest ih =>
      rw [List.foldlM_cons, bind_eq_ok_iff] at accepted
      rcases accepted with ⟨after, isAfter, accepted⟩
      have taken : options.set setting = after := by
        rw [set, isAfter]
      rw [setAll, List.foldl_cons, taken]
      exact ih accepted

/-- Settings about something else are accepted and leave the base path alone. -/
theorem map_basePath_foldlM_of_other
    {settings : List Setting}
    (other : ∀ setting ∈ settings, setting.name ≠ "base_path")
    (options : Options) :
    (settings.foldlM set? options).map basePath = .ok options.basePath := by
  induction settings generalizing options with
  | nil => rfl
  | cons setting rest ih =>
      rw [List.forall_mem_cons] at other
      cases setting with
      | basePath path => exact absurd rfl other.1
      | pointerStyle style => exact ih other.2 (options.withPointerStyle style)
      | detectDates enabled =>
          exact ih other.2 (options.withDateDetection enabled)

/--
Among settings none of which is made twice, the base path alone decides what
becomes of it.
-/
theorem map_basePath_foldlM_of_mem
    {settings : List Setting}
    (once : (settings.map Setting.name).Nodup)
    {path : String}
    (member : .basePath path ∈ settings)
    (options : Options) :
    (settings.foldlM set? options).map basePath =
      (checkBasePath path).map fun _ => path := by
  induction settings generalizing options with
  | nil => cases member
  | cons setting rest ih =>
      rcases List.nodup_cons.mp once with ⟨fresh, laterOnce⟩
      rcases List.mem_cons.mp member with rfl | later
      · have other : ∀ setting ∈ rest, setting.name ≠ "base_path" := by
          intro setting isLater same
          exact fresh (List.mem_map.mpr ⟨setting, isLater, same⟩)
        rw [List.foldlM_cons, set?, withBasePath]
        cases checkBasePath path with
        | error reason => rfl
        | ok valid => exact map_basePath_foldlM_of_other other _
      · have isOther : setting.name ≠ "base_path" := by
          intro same
          exact fresh (List.mem_map.mpr ⟨.basePath path, later, same.symm⟩)
        cases setting with
        | basePath other => exact absurd rfl isOther
        | pointerStyle style => exact ih laterOnce later _
        | detectDates enabled => exact ih laterOnce later _

end LeafPatch.Options
