import LeafPatch.Yaml.Description

/-!
# Texts that are no documents

A text can fail to be JSON or YAML at all.  A YAML value can also say things
that a document cannot: keys that are no strings, tags, and numbers that are not
finite.
-/

namespace LeafPatch

/-- Why a text is no document. -/
inductive DocumentError where
  | invalidJson
  | invalidYaml
  | nonStringKey (key : Yaml)
  | unsupportedTag (tag : String)
  | notFinite (value : NonFinite)

namespace DocumentError

/-- The text of the error. -/
def message : DocumentError → String
  | invalidJson => "invalid JSON"
  | invalidYaml => "invalid YAML"
  | nonStringKey key => "unsupported YAML key type: " ++ key.describe
  | unsupportedTag tag => "unsupported YAML tag: " ++ Yaml.tagText tag
  | notFinite value => "non-finite number encountered: " ++ value.name

end DocumentError

end LeafPatch
