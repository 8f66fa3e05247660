/-!
# YAML tokens

The tokens of a YAML text.  Besides what is written in the text there are tokens
for the start and the end of collections that only indentation shows, and for
keys that only the colon after them shows.
-/

namespace LeafPatch.Yaml

/-- Whether the content of a scalar is written as it is, so that it may be resolved. -/
inductive ScalarStyle where
  | plain
  | quoted
  deriving DecidableEq

/-- The octets of a tag or of a part of one. -/
abbrev TagText :=
  List UInt8

/-- A token of a YAML text. -/
inductive Token where
  | versionDirective (major minor : Nat)
  | tagDirective (handle expansion : TagText)
  | documentStart
  | documentEnd
  | blockSequenceStart
  | blockMappingStart
  | blockEnd
  | flowSequenceStart
  | flowSequenceEnd
  | flowMappingStart
  | flowMappingEnd
  | blockEntry
  | flowEntry
  | key
  | value
  | reference (name : String)
  | anchor (name : String)
  | tag (handle suffix : TagText)
  | scalar (style : ScalarStyle) (content : String)
  deriving DecidableEq

end LeafPatch.Yaml
