/-!
# Pointers

The place of a value within a document is written as a pointer: the keys that
lead to it, each after a slash.  Keys stand as they are in the raw style.  In
the escaped style, that of RFC 6901, tildes and slashes within keys are written
`~0` and `~1`, so that different places never have the same pointer.
-/

namespace LeafPatch.Pointer

/-- How keys are written in a pointer. -/
inductive Style where
  | raw
  | escaped
  deriving DecidableEq, Inhabited

/-- The name of a style. -/
def Style.name : Style → String
  | raw => "raw"
  | escaped => "escaped"

/-- The escaped form of a character. -/
def escapeChar : Char → List Char
  | '~' => ['~', '0']
  | '/' => ['~', '1']
  | character => [character]

/-- A key as it is written in a pointer. -/
def segment (style : Style) (key : String) : String :=
  match style with
  | .raw => key
  | .escaped => String.ofList (key.toList.flatMap escapeChar)

/-- The pointer that goes on to a child of where another pointer leads. -/
def child (style : Style) (pointer key : String) : String :=
  pointer ++ "/" ++ segment style key

/-- The pointer that follows keys from where another pointer leads. -/
def descend (style : Style) (pointer : String) (keys : List String) : String :=
  keys.foldl (child style) pointer

@[simp]
theorem descend_nil (style : Style) (pointer : String) :
    descend style pointer [] = pointer :=
  rfl

@[simp]
theorem descend_cons
    (style : Style)
    (pointer key : String)
    (keys : List String) :
    descend style pointer (key :: keys) =
      descend style (child style pointer key) keys :=
  rfl

/-- What following keys appends to a pointer does not depend on the pointer. -/
theorem descend_append_base
    (style : Style)
    (base pointer : String)
    (keys : List String) :
    descend style (base ++ pointer) keys =
      base ++ descend style pointer keys := by
  induction keys generalizing pointer with
  | nil => rfl
  | cons key rest ih =>
      simp only [descend_cons, child]
      rw [String.append_assoc, String.append_assoc, ih, String.append_assoc]

end LeafPatch.Pointer
