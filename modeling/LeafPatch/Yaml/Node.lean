import LeafPatch.Yaml.Token.Basic

/-!
# YAML nodes

The tree of a YAML document as it is written, with anchors, aliases and tags
still in place.  The tree is read from tokens by recursive descent; every
function takes the tokens it needs off the front and returns the others.

Nodes may be empty: a key without a value, an entry of a sequence with nothing
after its hyphen, or a document that is only announced.  An empty node is a
plain scalar without content.
-/

namespace LeafPatch.Yaml

/-- What may stand before the content of a node. -/
structure Properties (Anchor : Type) where
  anchor : Option Anchor
  tag : Option TagText

/-- A node; `Anchor` is what anchors and aliases are known by. -/
inductive Node (Anchor : Type) where
  | reference (anchor : Anchor)
  | scalar
      (properties : Properties Anchor)
      (style : ScalarStyle)
      (content : String)
  | sequence
      (properties : Properties Anchor)
      (items : List (Node Anchor))
  | mapping
      (properties : Properties Anchor)
      (entries : List (Node Anchor × Node Anchor))

/-- Nothing before the content of a node. -/
def Properties.none {Anchor : Type} : Properties Anchor :=
  ⟨Option.none, Option.none⟩

namespace Node

/-- The abbreviations of tags that are in force in a document. -/
abbrev Handles :=
  List (TagText × TagText)

/-- The octets of the handle that is always an abbreviation for standard tags. -/
def standardHandle : TagText :=
  "!!".toUTF8.toList

/-- The octets with which standard tags start. -/
def standardStart : TagText :=
  "tag:yaml.org,2002:".toUTF8.toList

/-- The octets of the exclamation mark. -/
def localHandle : TagText :=
  "!".toUTF8.toList

/-- The abbreviations that are in force unless a directive says otherwise. -/
def defaultHandles : Handles :=
  [(localHandle, localHandle), (standardHandle, standardStart)]

/-- The tag that a handle and a suffix stand for; a tag without handle stands for itself. -/
def expandTag? (handles : Handles) (handle suffix : TagText) : Option TagText :=
  if handle.isEmpty then
    some suffix
  else
    (handles.lookup handle).map (· ++ suffix)

/-- An empty node. -/
def empty : Node String :=
  scalar Properties.none .plain ""

/-- Whether a node is expected within blocks, and whether its sequence need not be indented. -/
inductive Place where
  | flow
  | block
  | blockValue
  deriving DecidableEq

/-- Reads the anchor and the tag of a node, in either order. -/
def properties?
    (handles : Handles) :
    List Token → Option (Properties String × List Token)
  | .anchor name :: .tag handle suffix :: rest
  | .tag handle suffix :: .anchor name :: rest => do
      let tag ← expandTag? handles handle suffix
      return (⟨some name, some tag⟩, rest)
  | .anchor name :: rest => some (⟨some name, none⟩, rest)
  | .tag handle suffix :: rest => do
      let tag ← expandTag? handles handle suffix
      return (⟨none, some tag⟩, rest)
  | tokens => some (Properties.none, tokens)

/-- Whether a token shows that an entry of a block sequence is empty. -/
def endsBlockEntry : Token → Bool
  | .blockEntry => true
  | .blockEnd => true
  | _ => false

/-- Whether a token shows that an entry of a sequence in the column of its key is empty. -/
def endsLevelEntry : Token → Bool
  | .blockEntry => true
  | .key => true
  | .value => true
  | .blockEnd => true
  | _ => false

/-- Whether a token shows that a key or value of a block mapping is empty. -/
def endsBlockPair : Token → Bool
  | .key => true
  | .value => true
  | .blockEnd => true
  | _ => false

/-- Whether a token shows that a key within brackets is empty. -/
def endsFlowKey (close : Token) (token : Token) : Bool :=
  token == .value || token == .flowEntry || token == close

/-- Whether a token shows that a value within brackets is empty. -/
def endsFlowValue (close : Token) (token : Token) : Bool :=
  token == .flowEntry || token == close

mutual

/-- Reads a node. -/
def node? (handles : Handles) (place : Place) :
    Nat → List Token → Option (Node String × List Token)
  | 0, _ => none
  | _ + 1, .reference name :: rest => some (reference name, rest)
  | fuel + 1, tokens => do
      let (properties, rest) ← properties? handles tokens
      match place, rest with
      | .blockValue, .blockEntry :: _ =>
          let (items, rest) ← levelEntries? handles fuel rest
          return (sequence properties items, rest)
      | _, .scalar style content :: rest =>
          return (scalar properties style content, rest)
      | _, .flowSequenceStart :: rest =>
          let (items, rest) ← flowItems? handles true fuel rest
          return (sequence properties items, rest)
      | _, .flowMappingStart :: rest =>
          let (entries, rest) ← flowPairs? handles true fuel rest
          return (mapping properties entries, rest)
      | .flow, rest =>
          guard (properties.anchor.isSome || properties.tag.isSome)
          return (scalar properties .plain "", rest)
      | _, .blockSequenceStart :: rest =>
          let (items, rest) ← blockEntries? handles fuel rest
          return (sequence properties items, rest)
      | _, .blockMappingStart :: rest =>
          let (entries, rest) ← blockPairs? handles fuel rest
          return (mapping properties entries, rest)
      | _, rest =>
          guard (properties.anchor.isSome || properties.tag.isSome)
          return (scalar properties .plain "", rest)

/-- Reads a node, or an empty one if the next token shows that there is none. -/
def nodeUnless? (handles : Handles) (place : Place) (ends : Token → Bool) :
    Nat → List Token → Option (Node String × List Token)
  | 0, _ => none
  | fuel + 1, tokens =>
      match tokens with
      | token :: _ =>
          if ends token then some (empty, tokens)
          else node? handles place fuel tokens
      | [] => node? handles place fuel tokens

/-- Reads the entries of a block sequence and its end. -/
def blockEntries? (handles : Handles) :
    Nat → List Token → Option (List (Node String) × List Token)
  | 0, _ => none
  | fuel + 1, .blockEntry :: rest => do
      let (item, rest) ← nodeUnless? handles .block endsBlockEntry fuel rest
      let (items, rest) ← blockEntries? handles fuel rest
      return (item :: items, rest)
  | _ + 1, .blockEnd :: rest => some ([], rest)
  | _ + 1, _ => none

/-- Reads the entries of a block sequence that is not indented under its key. -/
def levelEntries? (handles : Handles) :
    Nat → List Token → Option (List (Node String) × List Token)
  | 0, _ => none
  | fuel + 1, .blockEntry :: rest => do
      let (item, rest) ← nodeUnless? handles .block endsLevelEntry fuel rest
      let (items, rest) ← levelEntries? handles fuel rest
      return (item :: items, rest)
  | _ + 1, tokens => some ([], tokens)

/-- Reads the value of a pair of a block mapping; without a colon it is empty. -/
def blockPairValue? (handles : Handles) :
    Nat → List Token → Option (Node String × List Token)
  | 0, _ => none
  | fuel + 1, .value :: rest =>
      nodeUnless? handles .blockValue endsBlockPair fuel rest
  | _ + 1, tokens => some (empty, tokens)

/-- Reads the pairs of a block mapping and its end. -/
def blockPairs? (handles : Handles) :
    Nat → List Token →
      Option (List (Node String × Node String) × List Token)
  | 0, _ => none
  | fuel + 1, .key :: rest => do
      let (key, rest) ←
        nodeUnless? handles .blockValue endsBlockPair fuel rest
      let (value, rest) ← blockPairValue? handles fuel rest
      let (pairs, rest) ← blockPairs? handles fuel rest
      return ((key, value) :: pairs, rest)
  | _ + 1, .blockEnd :: rest => some ([], rest)
  | _ + 1, _ => none

/-- Reads the value of a pair within brackets; without a colon it is empty. -/
def flowPairValue? (handles : Handles) (close : Token) :
    Nat → List Token → Option (Node String × List Token)
  | 0, _ => none
  | fuel + 1, .value :: rest =>
      nodeUnless? handles .flow (endsFlowValue close) fuel rest
  | _ + 1, tokens => some (empty, tokens)

/-- Reads the items of a sequence in brackets and its end; `first` if none has been read. -/
def flowItems? (handles : Handles) (first : Bool) :
    Nat → List Token → Option (List (Node String) × List Token)
  | 0, _ => none
  | _ + 1, .flowSequenceEnd :: rest => some ([], rest)
  | fuel + 1, tokens => do
      let tokens ←
        match first, tokens with
        | true, tokens => some tokens
        | false, .flowEntry :: rest => some rest
        | false, _ => none
      match tokens with
      | .flowSequenceEnd :: rest => return ([], rest)
      | .key :: rest =>
          let (item, rest) ← flowItemPair? handles fuel rest
          let (items, rest) ← flowItems? handles false fuel rest
          return (item :: items, rest)
      | tokens =>
          let (item, rest) ← node? handles .flow fuel tokens
          let (items, rest) ← flowItems? handles false fuel rest
          return (item :: items, rest)

/--
Reads an item of a sequence in brackets that is a single pair, after its key
indicator.  A token in the place of the key that shows it to be empty is passed
over.
-/
def flowItemPair? (handles : Handles) :
    Nat → List Token → Option (Node String × List Token)
  | 0, _ => none
  | fuel + 1, tokens => do
      let (key, rest) ←
        match tokens with
        | token :: rest =>
            if endsFlowKey .flowSequenceEnd token then some (empty, rest)
            else node? handles .flow fuel tokens
        | [] => none
      let (value, rest) ← flowPairValue? handles .flowSequenceEnd fuel rest
      return (mapping Properties.none [(key, value)], rest)

/-- Reads the pairs of a mapping in braces and its end; `first` if none has been read. -/
def flowPairs? (handles : Handles) (first : Bool) :
    Nat → List Token →
      Option (List (Node String × Node String) × List Token)
  | 0, _ => none
  | _ + 1, .flowMappingEnd :: rest => some ([], rest)
  | fuel + 1, tokens => do
      let tokens ←
        match first, tokens with
        | true, tokens => some tokens
        | false, .flowEntry :: rest => some rest
        | false, _ => none
      match tokens with
      | .flowMappingEnd :: rest => return ([], rest)
      | .key :: rest =>
          let (key, rest) ←
            nodeUnless? handles .flow (endsFlowKey .flowMappingEnd) fuel rest
          let (value, rest) ← flowPairValue? handles .flowMappingEnd fuel rest
          let (pairs, rest) ← flowPairs? handles false fuel rest
          return ((key, value) :: pairs, rest)
      | tokens =>
          let (key, rest) ← node? handles .flow fuel tokens
          let (pairs, rest) ← flowPairs? handles false fuel rest
          return ((key, empty) :: pairs, rest)

end

/-! ## Documents -/

/-- The directives of a document. -/
structure Directives where
  hasVersion : Bool
  handles : Handles

/-- Reads directives: one version, 1.1 or 1.2, and abbreviations, each handle once. -/
def directives? : Directives → List Token → Option (Directives × List Token)
  | directives, .versionDirective major minor :: rest => do
      guard (!directives.hasVersion && major == 1
        && (minor == 1 || minor == 2))
      directives? { directives with hasVersion := true } rest
  | directives, .tagDirective handle expansion :: rest => do
      guard (directives.handles.lookup handle).isNone
      directives?
        { directives with
          handles := directives.handles ++ [(handle, expansion)] }
        rest
  | directives, tokens => some (directives, tokens)

/-- Whether a token shows that a document is empty. -/
def endsDocument : Token → Bool
  | .versionDirective _ _ => true
  | .tagDirective _ _ => true
  | .documentStart => true
  | .documentEnd => true
  | _ => false

/-- How deep the descent into some tokens can get. -/
def fuelFor (tokens : List Token) : Nat :=
  4 * tokens.length + 8

/-- Reads an announced document, starting with its directives. -/
def explicitDocument? (tokens : List Token) :
    Option (Node String × List Token) := do
  let (directives, rest) ← directives? ⟨false, []⟩ tokens
  let handles := directives.handles ++ defaultHandles
  match rest with
  | [.documentStart] => return (empty, [])
  | .documentStart :: rest =>
      nodeUnless? handles .block endsDocument (fuelFor rest) rest
  | _ => none

/-- Whether a document that starts with a token is announced. -/
def startsExplicit : Token → Bool
  | .versionDirective _ _ => true
  | .tagDirective _ _ => true
  | .documentStart => true
  | _ => false

/-- Reads the tokens of a text that has one document, or none, which counts as an empty one. -/
def ofTokens? (tokens : List Token) : Option (Node String) := do
  let (document, rest) ←
    match tokens with
    | [] => some (empty, [])
    | token :: _ =>
        if startsExplicit token then
          explicitDocument? tokens
        else
          node? defaultHandles .block (fuelFor tokens) tokens
  guard (rest.all (· == .documentEnd))
  return document

end Node

end LeafPatch.Yaml
