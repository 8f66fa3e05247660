import LeafPatch.Yaml.Node
import LeafPatch.Yaml.Plain

/-!
# Resolution of anchors and tags

An alias stands for the node with its anchor.  Anchors are numbered in the order
of the text: each gets the number of different names that came before it.  Where
a name is used again the numbers of two anchors can be the same, and then the
later one counts for every alias of that number, wherever that stands.

Aliases make a document larger than it is written, and even endless.  Sequences
and mappings are at most 128 deep, counted through aliases, and the number of
aliases that are followed is limited by the size of the document.
-/

namespace LeafPatch.Yaml

namespace Node

/-! ## Numbering -/

/-- The names of anchors so far, with their numbers. -/
abbrev Names :=
  List (String × Nat)

/-- Gives a name the number of different names so far. -/
def assign (name : String) (names : Names) : Nat × Names :=
  let number := names.length
  (number, (names.filter (·.1 != name)) ++ [(name, number)])

/-- Numbers the anchor of a node, if it has one. -/
def numberProperties
    (properties : Properties String)
    (names : Names) :
    Properties Nat × Names :=
  match properties.anchor with
  | some name =>
      let (number, names) := assign name names
      (⟨some number, properties.tag⟩, names)
  | none => (⟨none, properties.tag⟩, names)

mutual

/-- Numbers the anchors and aliases of a node.  An alias needs an anchor before it. -/
def number? : Node String → Names → Option (Node Nat × Names)
  | reference name, names => do
      let number ← names.lookup name
      return (reference number, names)
  | scalar properties style content, names =>
      let (properties, names) := numberProperties properties names
      some (scalar properties style content, names)
  | sequence properties items, names => do
      let (properties, names) := numberProperties properties names
      let (items, names) ← numberItems? items names
      return (sequence properties items, names)
  | mapping properties entries, names => do
      let (properties, names) := numberProperties properties names
      let (entries, names) ← numberEntries? entries names
      return (mapping properties entries, names)

/-- Numbers the anchors and aliases of the items of a sequence. -/
def numberItems? :
    List (Node String) → Names → Option (List (Node Nat) × Names)
  | [], names => some ([], names)
  | item :: rest, names => do
      let (item, names) ← number? item names
      let (rest, names) ← numberItems? rest names
      return (item :: rest, names)

/-- Numbers the anchors and aliases of the pairs of a mapping. -/
def numberEntries? :
    List (Node String × Node String) → Names →
      Option (List (Node Nat × Node Nat) × Names)
  | [], names => some ([], names)
  | (key, value) :: rest, names => do
      let (key, names) ← number? key names
      let (value, names) ← number? value names
      let (rest, names) ← numberEntries? rest names
      return ((key, value) :: rest, names)

end

/-! ## Anchored nodes and size -/

/-- A node with its number, if it has an anchor. -/
def anchoredBy (properties : Properties Nat) (node : Node Nat) :
    List (Nat × Node Nat) :=
  match properties.anchor with
  | some number => [(number, node)]
  | none => []

mutual

/-- The nodes with anchors, in the order of the text. -/
def anchored : Node Nat → List (Nat × Node Nat)
  | reference _ => []
  | scalar properties style content =>
      anchoredBy properties (scalar properties style content)
  | sequence properties items =>
      anchoredBy properties (sequence properties items)
        ++ anchoredItems items
  | mapping properties entries =>
      anchoredBy properties (mapping properties entries)
        ++ anchoredEntries entries

/-- The nodes with anchors among the items of a sequence. -/
def anchoredItems : List (Node Nat) → List (Nat × Node Nat)
  | [] => []
  | item :: rest => anchored item ++ anchoredItems rest

/-- The nodes with anchors among the pairs of a mapping. -/
def anchoredEntries : List (Node Nat × Node Nat) → List (Nat × Node Nat)
  | [] => []
  | (key, value) :: rest =>
      anchored key ++ anchored value ++ anchoredEntries rest

end

mutual

/-- The number of scalars and aliases, and of starts and ends of sequences and mappings. -/
def size : Node Nat → Nat
  | reference _ => 1
  | scalar _ _ _ => 1
  | sequence _ items => 2 + sizeOfItems items
  | mapping _ entries => 2 + sizeOfEntries entries

/-- The size of the items of a sequence. -/
def sizeOfItems : List (Node Nat) → Nat
  | [] => 0
  | item :: rest => size item + sizeOfItems rest

/-- The size of the pairs of a mapping. -/
def sizeOfEntries : List (Node Nat × Node Nat) → Nat
  | [] => 0
  | (key, value) :: rest => size key + size value + sizeOfEntries rest

end

end Node

/-! ## Tags -/

/-- The standard tag for a kind of scalar. -/
def standardTagText (kind : String) : TagText :=
  Node.standardStart ++ kind.toUTF8.toList

/-- The standard tags that ask for a kind of scalar. -/
def standardTag? (tag : TagText) : Option StandardTag :=
  if tag = standardTagText "bool" then some .bool
  else if tag = standardTagText "int" then some .integer
  else if tag = standardTagText "float" then some .float
  else if tag = standardTagText "null" then some .null
  else none

/-- The octets without an exclamation mark in front, unless there is nothing else. -/
def withoutMark (tag : TagText) : TagText :=
  if tag.take 1 = Node.localHandle ∧ tag.length ≠ 1 then tag.drop 1 else tag

/-- The name of a tag that is kept with its value: one that starts with an exclamation mark. -/
def localTag? (tag : TagText) : Option String :=
  if tag.take 1 = Node.localHandle then
    String.fromUTF8? ⟨(withoutMark (withoutMark tag)).toArray⟩
  else
    none

/-- Whether a tag starts with an exclamation mark. -/
def startsLocal (tag : TagText) : Bool :=
  tag.take 1 == Node.localHandle

/-- What the content of a scalar says under its tag, local tags left aside. -/
def contentOf?
    (tag : Option TagText)
    (style : ScalarStyle)
    (content : String) :
    Option Yaml :=
  match tag with
  | none =>
      if style = .plain then ofPlain? content else some (text content)
  | some tag =>
      match standardTag? tag with
      | some standard => ofStandard? standard content
      | none =>
          if startsLocal tag && style = .plain then
            ofPlain? content
          else
            some (text content)

/-- Keeps a local tag with a value. -/
def withTag (tag : Option TagText) (value : Yaml) : Yaml :=
  match tag.bind localTag? with
  | some name => tagged name value
  | none => value

/-! ## Values -/

/-- How many sequences and mappings may be within each other. -/
def depthLimit : Nat :=
  128

/-- How often aliases may be followed, for each unit of the size of a document. -/
def aliasesPerUnit : Nat :=
  100

/-- How many aliases may still be followed, along a computation that can fail. -/
abbrev Following :=
  StateT Nat Option

/-- The last node with a number. -/
def anchorNode?
    (anchors : List (Nat × Node Nat))
    (number : Nat) :
    Option (Node Nat) :=
  (anchors.reverse.find? (·.1 == number)).map Prod.snd

/-- The node itself, or what it stands for if it is an alias. -/
def follow (anchors : List (Nat × Node Nat)) (node : Node Nat) :
    Following (Node Nat) := do
  match node with
  | .reference number =>
      match ← get with
      | 0 => failure
      | left + 1 =>
          set left
          anchorNode? anchors number
  | node => return node

/-- The value of a node, for sequences and mappings that are at most `depth` deep. -/
def ofNode (anchors : List (Nat × Node Nat)) :
    Nat → Node Nat → Following Yaml
  | depth, node => do
      let node ← follow anchors node
      match depth, node with
      | _, .reference _ => failure
      | _, .scalar properties style content =>
          let value ← contentOf? properties.tag style content
          return withTag properties.tag value
      | 0, _ => failure
      | depth + 1, .sequence properties items =>
          let values ← items.mapM (ofNode anchors depth)
          return withTag properties.tag (sequence values)
      | depth + 1, .mapping properties entries =>
          let pairs ← entries.mapM fun entry => do
            let key ← ofNode anchors depth entry.1
            let value ← ofNode anchors depth entry.2
            return (key, value)
          guard (distinctKeys pairs)
          return withTag properties.tag (mapping pairs)

/-- The value of a document. -/
def ofDocument? (document : Node String) : Option Yaml := do
  let (document, _) ← document.number? []
  let limit := document.size * aliasesPerUnit
  let (value, _) ←
    (ofNode document.anchored depthLimit document).run limit
  return value

end LeafPatch.Yaml
