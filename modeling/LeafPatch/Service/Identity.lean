import LeafPatch.Document.Basic

/-!
# Identifiers

The identifiers of nodes are five groups of hexadecimal digits with hyphens
between them.  A network card names the virtual interface that it is attached to
in its extra properties.
-/

namespace LeafPatch.Service

/-- A hexadecimal digit, upper or lower case. -/
def isHexDigit (character : Char) : Bool :=
  character.isDigit
    || ('a' ≤ character && character ≤ 'f')
    || ('A' ≤ character && character ≤ 'F')

/-- The number of digits of each group of an identifier. -/
def identifierGroups : List Nat :=
  [8, 4, 4, 4, 12]

/-- Whether a text is groups of digits with hyphens between them. -/
def isGrouped : List Nat → List Char → Bool
  | [], text => text.isEmpty
  | [length], text => text.length == length && text.all isHexDigit
  | length :: groups, text =>
      (text.take length).length == length
        && (text.take length).all isHexDigit
        && (text.drop length).head? == some '-'
        && isGrouped groups (text.drop (length + 1))

/-- Whether a string is an identifier. -/
def isIdentifier (candidate : String) : Bool :=
  isGrouped identifierGroups candidate.toList

/-- The virtual interface that a card is attached to; empty if there is none. -/
def attachedInterface (card : Document) : String :=
  (((card.find? "extra").bind (·.find? "vif_port_id")).bind
    Document.text?).getD ""

end LeafPatch.Service
