import LeafPatch.Json.Token
import LeafPatch.Yaml.Cursor
import LeafPatch.Yaml.Token.Basic

/-!
# Anchors, tags and directives

The parts of a YAML text that are names: anchors and aliases, tags, and the
directives that give a version or abbreviate tags.  A tag is written with
characters of URIs, and any octet of its text can be given by an escape.
-/

namespace LeafPatch.Yaml

/-! ## Anchors -/

/-- Characters that may directly follow the name of an anchor or alias. -/
def mayFollowAnchor (character : Char) : Bool :=
  isBlankOrBreak character
    || ['?', ':', ',', ']', '}', '%', '@', '\x60'].contains character

/-- Reads the name of an anchor or alias, starting after its indicator. -/
def readAnchorName? (cursor : Cursor) : Option (String × Cursor) := do
  let (name, cursor) := cursor.takeWhile isWordChar
  guard (!name.isEmpty && orEnd mayFollowAnchor cursor.peek?)
  return (String.ofList name, cursor)

/-! ## Tags -/

/-- The octets of ASCII characters. -/
def octetsOf (text : List Char) : TagText :=
  text.map fun character => character.toNat.toUInt8

/-- The octets before the first zero, which would end a tag. -/
def untilZero (text : TagText) : TagText :=
  text.takeWhile (· != 0)

/-- Whether a character can be part of a tag as it is; `flow` admits those of brackets. -/
def isTagChar (flow : Bool) (character : Char) : Bool :=
  isWordChar character
    || [';', '/', '?', ':', '@', '&', '=', '+', '$', '.', '!', '~', '*', '\'',
        '(', ')'].contains character
    || (flow && [',', '[', ']'].contains character)

/-- Reads an octet given by a percent sign and two hexadecimal digits. -/
def readOctet? (cursor : Cursor) : Option (UInt8 × Cursor) :=
  match cursor.rest with
  | '%' :: high :: low :: _ => do
      let value ← Json.Token.hexNumber? [high, low]
      return (value.toUInt8, cursor.skipMany 3)
  | _ => none

/-- How many octets the UTF-8 sequence has that starts with an octet. -/
def sequenceLength? (first : UInt8) : Option Nat :=
  let value := first.toNat
  if value < 0x80 then some 1
  else if value < 0xC0 then none
  else if value < 0xE0 then some 2
  else if value < 0xF0 then some 3
  else if value < 0xF8 then some 4
  else none

/-- Reads a number of escaped octets that continue a UTF-8 sequence. -/
def readContinuation? : Nat → Cursor → Option (TagText × Cursor)
  | 0, cursor => some ([], cursor)
  | count + 1, cursor => do
      let (octet, cursor) ← readOctet? cursor
      guard (0x80 ≤ octet.toNat && octet.toNat < 0xC0)
      let (octets, cursor) ← readContinuation? count cursor
      return (octet :: octets, cursor)

/-- Reads the escapes of one UTF-8 sequence. -/
def readEscapedChar? (cursor : Cursor) : Option (TagText × Cursor) := do
  let (first, cursor) ← readOctet? cursor
  let length ← sequenceLength? first
  let (others, cursor) ← readContinuation? (length - 1) cursor
  return (first :: others, cursor)

/-- Reads the characters and escapes of a tag. -/
def readTagChars? (flow : Bool) : Nat → Cursor → Option (TagText × Cursor)
  | 0, cursor => some ([], cursor)
  | rounds + 1, cursor =>
      match cursor.peek? with
      | none => some ([], cursor)
      | some character =>
          if character = '%' then do
            let (octets, cursor) ← readEscapedChar? cursor
            let (others, cursor) ← readTagChars? flow rounds cursor
            return (octets ++ others, cursor)
          else if isTagChar flow character then do
            let (others, cursor) ← readTagChars? flow rounds cursor.skip
            return (octetsOf [character] ++ others, cursor)
          else
            some ([], cursor)

/-- Reads the text of a tag after the part of it that has been read already. -/
def readTagText?
    (flow : Bool)
    (before : List Char)
    (cursor : Cursor) :
    Option (TagText × Cursor) := do
  let (octets, after) ← readTagChars? flow (cursor.rest.length + 1) cursor
  guard (!before.isEmpty || cursor.rest.length != after.rest.length)
  return (untilZero (octetsOf (before.drop 1) ++ octets), after)

/-- Reads a handle: an exclamation mark, and perhaps a word and another one. -/
def readHandle? (cursor : Cursor) : Option (List Char × Cursor) := do
  guard (cursor.nextIs (· == '!'))
  let (word, cursor) := cursor.skip.takeWhile isWordChar
  if cursor.nextIs (· == '!') then
    return ('!' :: word ++ ['!'], cursor.skip)
  else
    return ('!' :: word, cursor)

/-- Whether a handle is of the form that has to be declared or is the one for standard tags. -/
def isNamedHandle (handle : List Char) : Bool :=
  2 ≤ handle.length && handle.getLast? == some '!'

/-- The octets of the exclamation mark, a handle and also a tag. -/
def exclamation : TagText :=
  octetsOf ['!']

/-- Reads a tag that is given verbatim between angle brackets. -/
def readVerbatimTag? (cursor : Cursor) : Option (Token × Cursor) := do
  let (suffix, cursor) ← readTagText? true [] (cursor.skipMany 2)
  guard (cursor.nextIs (· == '>'))
  return (.tag [] suffix, cursor.skip)

/-- Reads a tag that is given by a handle and a suffix. -/
def readShorthandTag? (cursor : Cursor) : Option (Token × Cursor) := do
  let (handle, cursor) ← readHandle? cursor
  if isNamedHandle handle then
    let (suffix, cursor) ← readTagText? false [] cursor
    return (.tag (octetsOf handle) suffix, cursor)
  else
    let (suffix, cursor) ← readTagText? false handle cursor
    if suffix.isEmpty then
      return (.tag [] exclamation, cursor)
    else
      return (.tag exclamation suffix, cursor)

/-- Reads a tag.  A blank has to follow, or within brackets a comma. -/
def readTag? (inFlow : Bool) (cursor : Cursor) : Option (Token × Cursor) := do
  let (token, cursor) ←
    if cursor.peekAt? 1 = some '<' then readVerbatimTag? cursor
    else readShorthandTag? cursor
  guard ((inFlow && cursor.nextIs (· == ','))
    || orEnd isBlankOrBreak cursor.peek?)
  return (token, cursor)

/-! ## Directives -/

/-- Reads a number of at most nine digits. -/
def readVersionNumber? (cursor : Cursor) : Option (Nat × Cursor) := do
  let (digits, cursor) := cursor.takeWhile Char.isDigit
  guard (!digits.isEmpty && digits.length ≤ 9)
  return (Nat.ofDigitChars 10 digits 0, cursor)

/-- Reads the version of a version directive. -/
def readVersion? (cursor : Cursor) : Option (Token × Cursor) := do
  let (major, cursor) ← readVersionNumber? (cursor.skipWhile isBlank)
  guard (cursor.nextIs (· == '.'))
  let (minor, cursor) ← readVersionNumber? cursor.skip
  return (.versionDirective major minor, cursor)

/-- Reads the handle of a tag directive and what it stands for. -/
def readAbbreviation? (cursor : Cursor) : Option (Token × Cursor) := do
  let (handle, cursor) ← readHandle? (cursor.skipWhile isBlank)
  guard (handle == ['!'] || isNamedHandle handle)
  guard (cursor.nextIs isBlank)
  let (expansion, cursor) ←
    readTagText? true [] (cursor.skipWhile isBlank)
  guard (orEnd isBlankOrBreak cursor.peek?)
  return (.tagDirective (octetsOf handle) expansion, cursor)

/-- Reads a directive, starting after its percent sign, to the end of its line. -/
def readDirective? (cursor : Cursor) : Option (Token × Cursor) := do
  let (name, cursor) := cursor.takeWhile isWordChar
  guard (orEnd isBlankOrBreak cursor.peek?)
  let (token, cursor) ←
    if name = "YAML".toList then readVersion? cursor
    else if name = "TAG".toList then readAbbreviation? cursor
    else none
  let cursor := (cursor.skipWhile isBlank).skipComment
  guard (orEnd isBreak cursor.peek?)
  return (token, cursor.skipBreak)

end LeafPatch.Yaml
