import LeafPatch.Decoding.Basic

/-!
# Decoding options

Options are stored with all their fields and may be given with some of them
only; a field that is not given has its default.  A field that is not known is
an error.  The base path is checked after all fields are decoded.
-/

namespace LeafPatch

namespace Pointer.Style

/-- All styles. -/
def all : List Style :=
  [raw, escaped]

/-- The name under which a style is stored. -/
def storedName : Style → String
  | raw => "Raw"
  | escaped => "Escaped"

/-- Decodes a style. -/
def decode : Json → Decoded Style :=
  Decoded.variant all storedName

end Pointer.Style

namespace Options

/-- The options as JSON. -/
def toJson (options : Options) : Json :=
  .object
    [("base_path", .text options.basePath),
      ("pointer_style", .text options.pointerStyle.storedName),
      ("detect_dates", .bool options.detectDates)]

/-- The name of the record in messages. -/
def recordName : String :=
  "RawPatchOptions"

/-- The names of the fields. -/
def fieldNames : List String :=
  ["base_path", "pointer_style", "detect_dates"]

/-- The fields of options that have been decoded. -/
structure Fields where
  basePath : Option String
  pointerStyle : Option Pointer.Style
  detectDates : Option Bool

/-- Decodes a field. -/
def decodeField (fields : Fields) (field : String × Json) : Decoded Fields :=
  match field.1 with
  | "base_path" => do
      let basePath ←
        Decoded.once "base_path" fields.basePath Decoded.text field.2
      return { fields with basePath }
  | "pointer_style" => do
      let pointerStyle ←
        Decoded.once "pointer_style" fields.pointerStyle
          Pointer.Style.decode field.2
      return { fields with pointerStyle }
  | "detect_dates" => do
      let detectDates ←
        Decoded.once "detect_dates" fields.detectDates
          Decoded.boolean field.2
      return { fields with detectDates }
  | name => .error (.unknownField name fieldNames)

/-- Decodes the fields that are given. -/
def decodeFields : Json → Decoded Fields
  | .object given => given.foldlM decodeField ⟨none, none, none⟩
  | .array items => do
      let fields ←
        (fieldNames.zip items).foldlM decodeField ⟨none, none, none⟩
      if fieldNames.length < items.length then
        .error (.tooLong items.length)
      else
        return fields
  | found => .error (.wrongKind found (.record recordName))

/-- Decodes options. -/
def decode (found : Json) : Decoded Options := do
  let fields ← decodeFields found
  let options ←
    (default.withBasePath (fields.basePath.getD "")).mapError
      DecodeError.basePath
  return (options.withPointerStyle
      (fields.pointerStyle.getD default.pointerStyle)).withDateDetection
    (fields.detectDates.getD default.detectDates)

end Options

end LeafPatch
