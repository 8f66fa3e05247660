import LeafPatch.Document.Yaml
import LeafPatch.Json.Reader
import LeafPatch.Yaml.Reader

/-!
# Reading documents

A document is read from the text of a JSON value or of a YAML document.
-/

namespace LeafPatch

/-- The format of the text of a document. -/
inductive DocumentFormat where
  | json
  | yaml
  deriving DecidableEq

namespace Document

/-- Reads a document from the text of a JSON value. -/
def readJson (detectDates : Bool) (text : String) :
    Except DocumentError Document :=
  match Json.parse? text with
  | some value => .ok (ofJson detectDates value)
  | none => .error .invalidJson

/-- Reads a document from the text of a YAML document. -/
def readYaml (detectDates : Bool) (text : String) :
    Except DocumentError Document :=
  match Yaml.parse? text with
  | some value => ofYaml detectDates value
  | none => .error .invalidYaml

/-- Reads a document from text. -/
def read (format : DocumentFormat) (detectDates : Bool) (text : String) :
    Except DocumentError Document :=
  match format with
  | .json => readJson detectDates text
  | .yaml => readYaml detectDates text

end Document

end LeafPatch
