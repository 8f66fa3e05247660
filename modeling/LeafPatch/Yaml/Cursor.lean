/-!
# Positions in a YAML text

A cursor is the rest of a text together with the line, the column and the number
of octets before it, all counted from zero.  Columns count characters, while the
length of a stretch of text is measured in the octets that its characters take.
A carriage return directly followed by a line feed is one line break of two
characters.
-/

namespace LeafPatch.Yaml

/-- Whether a character may stand in a YAML text. -/
def isAllowed (character : Char) : Bool :=
  let code := character.toNat
  code == 0x09 || code == 0x0A || code == 0x0D
    || (0x20 ≤ code && code ≤ 0x7E)
    || code == 0x85
    || (0xA0 ≤ code && code ≤ 0xD7FF)
    || (0xE000 ≤ code && code ≤ 0xFFFD)
    || 0x10000 ≤ code

/-- The mark that may start a text or a line to show its byte order. -/
def byteOrderMark : Char :=
  '\uFEFF'

/-- A space or tab. -/
def isBlank (character : Char) : Bool :=
  character == ' ' || character == '\t'

/-- A character that ends a line. -/
def isBreak (character : Char) : Bool :=
  character == '\n' || character == '\r' || character == '\u0085'
    || character == '\u2028' || character == '\u2029'

/-- A letter, digit, underscore or hyphen. -/
def isWordChar (character : Char) : Bool :=
  character.isAlphanum || character == '_' || character == '-'

/-- The end of a text counts as a character with any of some properties. -/
def orEnd (property : Char → Bool) : Option Char → Bool
  | some character => property character
  | none => true

/-- A space, a tab or a line break; with `orEnd` also the end of the text. -/
def isBlankOrBreak (character : Char) : Bool :=
  isBlank character || isBreak character

/-- What a line break is in the content of a scalar. -/
def normalizedBreak (character : Char) : Char :=
  if character == '\u2028' || character == '\u2029' then character else '\n'

/-- A place in a text. -/
structure Mark where
  /-- The number of octets before the place. -/
  index : Nat
  line : Nat
  column : Nat
  deriving DecidableEq

/-- A place in a text and what follows it. -/
structure Cursor where
  mark : Mark
  rest : List Char

namespace Mark

/-- The place after a character of the same line. -/
def next (mark : Mark) (character : Char) : Mark :=
  ⟨mark.index + character.utf8Size, mark.line, mark.column + 1⟩

/-- The place after a line break of a number of octets. -/
def nextLine (mark : Mark) (width : Nat) : Mark :=
  ⟨mark.index + width, mark.line + 1, 0⟩

end Mark

namespace Cursor

/-- The start of a text. -/
def start (text : List Char) : Cursor :=
  ⟨⟨0, 0, 0⟩, text⟩

/-- The column. -/
def column (cursor : Cursor) : Nat :=
  cursor.mark.column

/-- The next character. -/
def peek? (cursor : Cursor) : Option Char :=
  cursor.rest.head?

/-- The character at a distance. -/
def peekAt? (cursor : Cursor) (distance : Nat) : Option Char :=
  cursor.rest[distance]?

/-- Whether the text ends here. -/
def atEnd (cursor : Cursor) : Bool :=
  cursor.rest.isEmpty

/-- Whether the next character has a property. -/
def nextIs (cursor : Cursor) (property : Char → Bool) : Bool :=
  cursor.peek?.any property

/-- Goes over a character of the line. -/
def skip (cursor : Cursor) : Cursor :=
  match cursor.rest with
  | [] => cursor
  | character :: rest => ⟨cursor.mark.next character, rest⟩

/-- Goes over some characters of the line. -/
def skipMany (cursor : Cursor) : Nat → Cursor
  | 0 => cursor
  | count + 1 => cursor.skip.skipMany count

/-- Goes over a line break and returns its content; elsewhere nothing happens. -/
def readBreak (cursor : Cursor) : List Char × Cursor :=
  match cursor.rest with
  | '\r' :: '\n' :: rest => (['\n'], ⟨cursor.mark.nextLine 2, rest⟩)
  | character :: rest =>
      if isBreak character then
        ([normalizedBreak character],
          ⟨cursor.mark.nextLine character.utf8Size, rest⟩)
      else
        ([], cursor)
  | [] => ([], cursor)

/-- Goes over a line break. -/
def skipBreak (cursor : Cursor) : Cursor :=
  cursor.readBreak.2

/-- Reads the characters of the line that have a property, from a place. -/
def takeFrom (property : Char → Bool) (mark : Mark) :
    List Char → List Char × Cursor
  | [] => ([], ⟨mark, []⟩)
  | character :: rest =>
      if property character then
        let (taken, cursor) := takeFrom property (mark.next character) rest
        (character :: taken, cursor)
      else
        ([], ⟨mark, character :: rest⟩)

/-- Reads the characters of the line that have a property. -/
def takeWhile
    (cursor : Cursor)
    (property : Char → Bool) :
    List Char × Cursor :=
  takeFrom property cursor.mark cursor.rest

/-- Goes over the characters of the line that have a property. -/
def skipWhile (cursor : Cursor) (property : Char → Bool) : Cursor :=
  (cursor.takeWhile property).2

/-- Goes over a comment, up to the end of its line, if there is one. -/
def skipComment (cursor : Cursor) : Cursor :=
  if cursor.nextIs (· == '#') then
    cursor.skipWhile (!isBreak ·)
  else
    cursor

/-- Whether three equal characters stand at the start of a line as an indicator. -/
def atIndicator (cursor : Cursor) (character : Char) : Bool :=
  cursor.column == 0
    && cursor.rest.take 3 == List.replicate 3 character
    && orEnd isBlankOrBreak (cursor.peekAt? 3)

/-- Whether a document starts or ends here explicitly. -/
def atDocumentIndicator (cursor : Cursor) : Bool :=
  cursor.atIndicator '-' || cursor.atIndicator '.'

end Cursor

end LeafPatch.Yaml
