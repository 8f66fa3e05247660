import LeafPatch.Json.Token
import LeafPatch.Yaml.Token.Folding

/-!
# YAML scalars

The three ways to write a scalar: plain, in quotes and as a block.  Each reader
gives the content and the place after it.  A loop over words or lines is bounded
by the number of characters left, at least one of which every round consumes.
-/

namespace LeafPatch.Yaml

/-! ## Plain scalars -/

namespace PlainScalar

/-- A character that ends a plain scalar within brackets. -/
def isFlowEnd (character : Char) : Bool :=
  [',', '[', ']', '{', '}'].contains character

/-- A character that must not directly follow a colon within brackets. -/
def isMisplacedAfterColon (character : Char) : Bool :=
  character == '?' || isFlowEnd character

/-- Reads a word: up to a blank, a break, or an indicator that ends the scalar. -/
def wordFrom? (inFlow : Bool) (mark : Mark) :
    List Char → Option (List Char × Cursor)
  | [] => some ([], ⟨mark, []⟩)
  | character :: rest =>
      if isBlankOrBreak character then
        some ([], ⟨mark, character :: rest⟩)
      else if inFlow && character == ':'
          && rest.head?.any isMisplacedAfterColon then
        none
      else if (character == ':' && orEnd isBlankOrBreak rest.head?)
          || (inFlow && isFlowEnd character) then
        some ([], ⟨mark, character :: rest⟩)
      else do
        let (word, cursor) ← wordFrom? inFlow (mark.next character) rest
        return (character :: word, cursor)

/--
Reads words as long as they belong to the scalar.  Lines that are not indented
to the column `floor` end it, except within brackets.  The gap that was read
last is returned as well.
-/
def readFrom? (inFlow : Bool) (floor : Nat) :
    Nat → List Char → Gap → Cursor → Option (List Char × Gap × Cursor)
  | 0, content, gap, cursor => some (content, gap, cursor)
  | rounds + 1, content, gap, cursor =>
      if cursor.atDocumentIndicator || cursor.nextIs (· == '#') then
        some (content, gap, cursor)
      else do
        let (word, cursor) ← wordFrom? inFlow cursor.mark cursor.rest
        let (content, gap) :=
          if word.isEmpty then
            (content, gap)
          else
            (content ++ gap.fold ++ word, Gap.none)
        if cursor.nextIs isBlankOrBreak then
          let (gap, cursor) ← gap.read? floor cursor
          if !inFlow && cursor.column < floor then
            return (content, gap, cursor)
          else
            readFrom? inFlow floor rounds content gap cursor
        else
          return (content, gap, cursor)

/-- Reads a plain scalar; also says whether it was left by a line break. -/
def read?
    (inFlow : Bool)
    (floor : Nat)
    (cursor : Cursor) :
    Option (String × Bool × Cursor) := do
  let (content, gap, cursor) ←
    readFrom? inFlow floor (cursor.rest.length + 1) [] Gap.none cursor
  return (String.ofList content, gap.hasBreak, cursor)

end PlainScalar

/-! ## Quoted scalars -/

namespace QuotedScalar

/-- What an escape with a single letter stands for. -/
def escapeLetter? : Char → Option Char
  | '0' => some '\x00'
  | 'a' => some '\x07'
  | 'b' => some '\x08'
  | 't' => some '\t'
  | '\t' => some '\t'
  | 'n' => some '\n'
  | 'v' => some '\x0b'
  | 'f' => some '\x0c'
  | 'r' => some '\r'
  | 'e' => some '\x1b'
  | ' ' => some ' '
  | '"' => some '"'
  | '/' => some '/'
  | '\\' => some '\\'
  | 'N' => some '\u0085'
  | '_' => some '\u00a0'
  | 'L' => some '\u2028'
  | 'P' => some '\u2029'
  | _ => none

/-- How many hexadecimal digits follow the letter of a numeric escape. -/
def escapeLength? : Char → Option Nat
  | 'x' => some 2
  | 'u' => some 4
  | 'U' => some 8
  | _ => none

/-- The character of a code point that is not a surrogate. -/
def charOfCode? (code : Nat) : Option Char :=
  if valid : code.isValidChar then some (Char.ofNatAux code valid) else none

/-- Reads the escape after a backslash. -/
def escape? (cursor : Cursor) : Option (Char × Cursor) := do
  let letter ← cursor.peek?
  let after := cursor.skip
  match escapeLength? letter with
  | some length =>
      guard (after.rest.length ≥ length)
      let code ← Json.Token.hexNumber? (after.rest.take length)
      let character ← charOfCode? code
      return (character, after.skipMany length)
  | none =>
      let character ← escapeLetter? letter
      return (character, after)

/-- The character that ends the scalar. -/
def quoteOf (single : Bool) : Char :=
  if single then '\'' else '"'

/--
Reads a word: up to a blank, a break or the quote, or over an escaped line
break, which is reported.
-/
def word? (single : Bool) :
    Nat → Cursor → Option (List Char × Bool × Cursor)
  | 0, cursor => some ([], false, cursor)
  | rounds + 1, cursor =>
      match cursor.rest with
      | [] => some ([], false, cursor)
      | character :: rest =>
          if isBlankOrBreak character then
            some ([], false, cursor)
          else if single && character == '\'' && rest.head? == some '\'' then do
            let (word, escaped, cursor) ←
              word? single rounds (cursor.skipMany 2)
            return ('\'' :: word, escaped, cursor)
          else if character == quoteOf single then
            some ([], false, cursor)
          else if !single && character == '\\' then
            if rest.head?.any isBreak then
              some ([], true, cursor.skip.skipBreak)
            else do
              let (escaped, cursor) ← escape? cursor.skip
              let (word, joined, cursor) ← word? single rounds cursor
              return (escaped :: word, joined, cursor)
          else do
            let (word, escaped, cursor) ← word? single rounds cursor.skip
            return (character :: word, escaped, cursor)

/-- Reads words and the gaps between them up to the quote that ends the scalar. -/
def readFrom? (single : Bool) :
    Nat → List Char → Cursor → Option (List Char × Cursor)
  | 0, _, _ => none
  | rounds + 1, content, cursor =>
      if cursor.atDocumentIndicator || cursor.atEnd then
        none
      else do
        let (word, escaped, cursor) ←
          word? single (cursor.rest.length + 1) cursor
        let content := content ++ word
        if cursor.nextIs (· == quoteOf single) then
          return (content, cursor.skip)
        else
          let (gap, cursor) ←
            (if escaped then Gap.afterEscape else Gap.none).read? 0 cursor
          readFrom? single rounds (content ++ gap.fold) cursor

/-- Reads a quoted scalar, starting after its first quote. -/
def read? (single : Bool) (cursor : Cursor) : Option (String × Cursor) := do
  let (content, cursor) ←
    readFrom? single (cursor.rest.length + 1) [] cursor
  return (String.ofList content, cursor)

end QuotedScalar

/-! ## Block scalars -/

namespace BlockScalar

/-- What happens to the line breaks at the end. -/
inductive Chomping where
  /-- All are dropped. -/
  | strip
  /-- One is kept. -/
  | clip
  /-- All are kept. -/
  | keep
  deriving DecidableEq

/-- The header: how the end is chomped and by how much the content is indented, if that is given. -/
structure Header where
  chomping : Chomping
  increment : Option Nat

/-- Reads a chomping indicator, if there is one. -/
def chomping? (cursor : Cursor) : Option Chomping × Cursor :=
  match cursor.peek? with
  | some '+' => (some .keep, cursor.skip)
  | some '-' => (some .strip, cursor.skip)
  | _ => (none, cursor)

/-- Reads an indentation indicator, if there is one.  It must not be zero. -/
def increment? (cursor : Cursor) : Option (Option Nat × Cursor) :=
  match cursor.peek? with
  | some character =>
      if character = '0' then
        none
      else if character.isDigit then
        some (some (character.toNat - '0'.toNat), cursor.skip)
      else
        some (none, cursor)
  | none => some (none, cursor)

/-- Reads the header, with its indicators in either order, to the end of the line. -/
def header? (cursor : Cursor) : Option (Header × Cursor) := do
  let (early, cursor) := chomping? cursor
  let (increment, cursor) ← increment? cursor
  let (late, cursor) :=
    if early.isNone && increment.isSome then chomping? cursor
    else (none, cursor)
  let cursor := (cursor.skipWhile isBlank).skipComment
  guard (orEnd isBreak cursor.peek?)
  return (⟨(early.or late).getD .clip, increment⟩, cursor.skipBreak)

/--
The breaks of blank lines, the widest indentation among them, and the place of
the next line's content.
-/
structure BlankLines where
  breaks : List Char
  widest : Nat
  cursor : Cursor

/--
Goes over blank lines and the indentation of the line after them.  While the
indentation of the content is not known, all spaces are indentation; a tab in
its place is refused.
-/
def blankLines? (indent : Option Nat) :
    Nat → BlankLines → Option BlankLines
  | 0, found => some found
  | rounds + 1, found => do
      let inIndentation := fun (column : Nat) => indent.all (column < ·)
      let spaces := (found.cursor.takeWhile (· == ' ')).1.length
      let width :=
        match indent with
        | some column => min spaces (column - found.cursor.column)
        | none => spaces
      let cursor := found.cursor.skipMany width
      let widest := max found.widest cursor.column
      guard (!(inIndentation cursor.column && cursor.nextIs (· == '\t')))
      if cursor.nextIs isBreak then
        let (lineBreak, cursor) := cursor.readBreak
        blankLines? indent rounds
          ⟨found.breaks ++ lineBreak, widest, cursor⟩
      else
        return ⟨found.breaks, widest, cursor⟩

/-- Goes over blank lines from a place. -/
def skipBlankLines?
    (indent : Option Nat)
    (cursor : Cursor) :
    Option BlankLines :=
  blankLines? indent (cursor.rest.length + 1) ⟨[], 0, cursor⟩

/-- What has been read, and the breaks after the last line of content. -/
structure Lines where
  content : List Char
  /-- The break directly after the last line. -/
  lastBreak : List Char
  /-- The breaks of the blank lines after it. -/
  moreBreaks : List Char
  /-- Whether the last line started with a blank. -/
  indented : Bool
  cursor : Cursor

/-- The breaks between two lines; a folded block joins lines that start with no blank. -/
def joint (folded : Bool) (lines : Lines) (indented : Bool) : List Char :=
  if folded && lines.lastBreak == ['\n'] && !lines.indented && !indented then
    if lines.moreBreaks.isEmpty then [' '] else lines.moreBreaks
  else
    lines.lastBreak ++ lines.moreBreaks

/-- Reads the lines that are indented to the column of the content. -/
def lines? (folded : Bool) (indent : Nat) : Nat → Lines → Option Lines
  | 0, lines => some lines
  | rounds + 1, lines => do
      if lines.cursor.column = indent && !lines.cursor.atEnd then
        let indented := lines.cursor.nextIs isBlank
        let (line, cursor) := lines.cursor.takeWhile (!isBreak ·)
        let (lastBreak, cursor) := cursor.readBreak
        let blank ← skipBlankLines? (some indent) cursor
        lines? folded indent rounds
          { content := lines.content ++ joint folded lines indented ++ line
            lastBreak
            moreBreaks := blank.breaks
            indented
            cursor := blank.cursor }
      else
        return lines

/--
Reads a block scalar, starting after its indicator, within a block whose
indentation is `parent`, or -1 at the top.  Unless the header gives it, the
indentation of the content is that of its first line.
-/
def read?
    (folded : Bool)
    (parent : Int)
    (cursor : Cursor) :
    Option (String × Cursor) := do
  let (header, cursor) ← header? cursor
  let given := header.increment.map fun increment =>
    (max parent 0).toNat + increment
  let blank ← skipBlankLines? given cursor
  let indent := given.getD (max blank.widest (max (parent + 1) 1).toNat)
  let lines ←
    lines? folded indent (blank.cursor.rest.length + 1)
      ⟨[], [], blank.breaks, false, blank.cursor⟩
  let ending :=
    match header.chomping with
    | .strip => []
    | .clip => lines.lastBreak
    | .keep => lines.lastBreak ++ lines.moreBreaks
  return (String.ofList (lines.content ++ ending), lines.cursor)

end BlockScalar

end LeafPatch.Yaml
