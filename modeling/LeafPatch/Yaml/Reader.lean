import LeafPatch.Yaml.Resolution
import LeafPatch.Yaml.Token.Lexer

/-!
# Reading YAML

A text is cut into tokens, the tokens are read as a tree of nodes, and the nodes
are resolved to a value.  A text that is refused anywhere on the way is no YAML.
-/

namespace LeafPatch.Yaml

/-- Reads a value from a text that has at most one document. -/
def parse? (text : String) : Option Yaml := do
  let tokens ← Token.cut? text.toList
  let document ← Node.ofTokens? tokens
  ofDocument? document

end LeafPatch.Yaml
