import LeafPatch.Pointer

/-!
# Options

What a user chooses about a comparison: the pointer under which all operations
are placed, how keys are written in pointers, and whether strings that are
internet timestamps count as dates.  A base path is empty or a pointer that does
not end with a slash.
-/

namespace LeafPatch

/-- Why a base path is refused. -/
inductive BasePathError where
  | relative (path : String)
  | trailingSlash (path : String)
  deriving DecidableEq

namespace BasePathError

/-- The text of the error. -/
def message : BasePathError → String
  | relative path => "base path must be empty or start with '/': " ++ path
  | trailingSlash path => "base path must not end with '/': " ++ path

end BasePathError

/-- The options of a comparison. -/
structure Options where
  basePath : String
  pointerStyle : Pointer.Style
  detectDates : Bool
  deriving DecidableEq

namespace Options

/-- No base path, keys as they are, no dates. -/
def default : Options :=
  ⟨"", .raw, false⟩

instance : Inhabited Options :=
  ⟨default⟩

/-- Checks a base path. -/
def checkBasePath (path : String) : Except BasePathError Unit :=
  match path.toList with
  | [] => .ok ()
  | first :: rest =>
      if first ≠ '/' then
        .error (.relative path)
      else if (first :: rest).getLast? = some '/' then
        .error (.trailingSlash path)
      else
        .ok ()

/-- The options with another base path, if it is valid. -/
def withBasePath
    (options : Options)
    (path : String) :
    Except BasePathError Options :=
  match checkBasePath path with
  | .ok () => .ok { options with basePath := path }
  | .error reason => .error reason

/-- The options with another pointer style. -/
def withPointerStyle (options : Options) (style : Pointer.Style) : Options :=
  { options with pointerStyle := style }

/-- The options with date detection turned on or off. -/
def withDateDetection (options : Options) (enabled : Bool) : Options :=
  { options with detectDates := enabled }

end Options

end LeafPatch
