import LeafPatch.Yaml.Token.Property
import LeafPatch.Yaml.Token.Scalar

/-!
# Cutting YAML into tokens

The text is read token by token with the indentation of the open blocks on a
stack.  A token that starts a line deeper than the block around it opens a
block; one that starts less deep closes blocks.

Whether a node is a key shows only at the colon after it.  So the place of the
last node that can be a key is remembered, for every level of brackets, and at
the colon the token for a key is inserted there.  Such a key stays within its
line and within 1024 octets; where the indentation allows nothing but a key,
its colon must come.
-/

namespace LeafPatch.Yaml

/-- A node that may turn out to be a key. -/
structure KeyCandidate where
  /-- Whether it can be nothing else. -/
  required : Bool
  /-- How many tokens precede it. -/
  position : Nat
  mark : Mark

/-- How many octets a key without an indicator may take, with all that precedes its colon. -/
def longestKey : Nat :=
  1024

/-- The state of the cutting. -/
structure Lexer where
  cursor : Cursor
  /-- The tokens so far, in order. -/
  tokens : Array Token
  /-- The column of the innermost block, or -1. -/
  indent : Int
  /-- The columns of the blocks around it, innermost first. -/
  outerIndents : List Int
  /-- Whether a key without an indicator may start here. -/
  keyAllowed : Bool
  /-- The node that may be a key on the innermost level of brackets. -/
  candidate : Option KeyCandidate
  /-- The same for the levels around it, innermost first. -/
  outerCandidates : List (Option KeyCandidate)

namespace Lexer

/-- The state at the start of a text. -/
def start (text : List Char) : Lexer :=
  ⟨Cursor.start text, #[], -1, [], true, none, []⟩

/-- Whether the place is within brackets. -/
def inFlow (lexer : Lexer) : Bool :=
  !lexer.outerCandidates.isEmpty

/-- The column. -/
def column (lexer : Lexer) : Nat :=
  lexer.cursor.column

/-- Appends a token. -/
def emit (lexer : Lexer) (token : Token) : Lexer :=
  { lexer with tokens := lexer.tokens.push token }

/-- Inserts a token before the one at a position. -/
def insertAt (lexer : Lexer) (position : Nat) (token : Token) : Lexer :=
  { lexer with
    tokens :=
      lexer.tokens.extract 0 position
        ++ #[token]
        ++ lexer.tokens.extract position lexer.tokens.size }

/-- Appends a token that consists of some characters. -/
def emitSkipping (lexer : Lexer) (token : Token) (length : Nat) : Lexer :=
  { lexer.emit token with cursor := lexer.cursor.skipMany length }

/-! ## Candidates for keys -/

/-- Whether a node has become too long or ended its line before its colon came. -/
def isStale (lexer : Lexer) (candidate : KeyCandidate) : Bool :=
  candidate.mark.line < lexer.cursor.mark.line
    || candidate.mark.index + longestKey < lexer.cursor.mark.index

/-- Gives a stale candidate up. -/
def refresh?
    (lexer : Lexer)
    (candidate : Option KeyCandidate) :
    Option (Option KeyCandidate) :=
  match candidate with
  | some found =>
      if lexer.isStale found then
        if found.required then none else some none
      else
        some candidate
  | none => some none

/-- Gives all stale candidates up. -/
def dropStale? (lexer : Lexer) : Option Lexer := do
  let outerCandidates ← lexer.outerCandidates.mapM lexer.refresh?
  let candidate ← lexer.refresh? lexer.candidate
  return { lexer with candidate, outerCandidates }

/-- Gives the innermost candidate up. -/
def dropCandidate? (lexer : Lexer) : Option Lexer :=
  match lexer.candidate with
  | some found =>
      if found.required then none else some { lexer with candidate := none }
  | none => some lexer

/-- Remembers the place as that of a candidate, if one may start here. -/
def saveCandidate? (lexer : Lexer) : Option Lexer := do
  if lexer.keyAllowed then
    let required := !lexer.inFlow && lexer.indent == lexer.column
    let lexer ← lexer.dropCandidate?
    return { lexer with
      candidate := some ⟨required, lexer.tokens.size, lexer.cursor.mark⟩ }
  else
    return lexer

/-! ## Blocks -/

/-- Opens a block at a column that is deeper than the block around it. -/
def openBlock
    (lexer : Lexer)
    (column : Nat)
    (position : Nat)
    (token : Token) :
    Lexer :=
  if !lexer.inFlow && lexer.indent < column then
    { lexer.insertAt position token with
      indent := column
      outerIndents := lexer.indent :: lexer.outerIndents }
  else
    lexer

/-- Closes the innermost blocks that are deeper than a column. -/
def closeBlocksFrom (column : Int) (lexer : Lexer) : List Int → Lexer
  | [] => lexer
  | outer :: rest =>
      if column < lexer.indent then
        closeBlocksFrom column
          { lexer.emit .blockEnd with indent := outer, outerIndents := rest }
          rest
      else
        lexer

/-- Closes the blocks that are deeper than a column; there are none within brackets. -/
def closeBlocks (lexer : Lexer) (column : Int) : Lexer :=
  if lexer.inFlow then
    lexer
  else
    closeBlocksFrom column lexer lexer.outerIndents

/-! ## Tokens -/

/-- A directive or document indicator ends all blocks. -/
def leaveBlocks? (lexer : Lexer) : Option Lexer := do
  let lexer ← (lexer.closeBlocks (-1)).dropCandidate?
  return { lexer with keyAllowed := false }

/-- Reads a directive. -/
def directive? (lexer : Lexer) : Option Lexer := do
  let lexer ← lexer.leaveBlocks?
  let (token, cursor) ← readDirective? lexer.cursor.skip
  return { lexer.emit token with cursor }

/-- Reads the indicator of the start or end of a document. -/
def documentIndicator? (lexer : Lexer) (token : Token) : Option Lexer := do
  let lexer ← lexer.leaveBlocks?
  return lexer.emitSkipping token 3

/-- Reads an opening bracket. -/
def openFlow? (lexer : Lexer) (token : Token) : Option Lexer := do
  let lexer ← lexer.saveCandidate?
  return { lexer.emitSkipping token 1 with
    keyAllowed := true
    candidate := none
    outerCandidates := lexer.candidate :: lexer.outerCandidates }

/-- Reads a closing bracket. -/
def closeFlow? (lexer : Lexer) (token : Token) : Option Lexer := do
  let lexer ← lexer.dropCandidate?
  let lexer :=
    match lexer.outerCandidates with
    | [] => lexer
    | candidate :: outerCandidates =>
        { lexer with candidate, outerCandidates }
  return { lexer.emitSkipping token 1 with keyAllowed := false }

/-- Reads a comma within brackets. -/
def flowEntry? (lexer : Lexer) : Option Lexer := do
  let lexer ← lexer.dropCandidate?
  return { lexer.emitSkipping .flowEntry 1 with keyAllowed := true }

/-- Opens a block at the place itself, where a key may start. -/
def openBlockHere? (lexer : Lexer) (token : Token) : Option Lexer := do
  guard (lexer.inFlow || lexer.keyAllowed)
  return lexer.openBlock lexer.column lexer.tokens.size token

/-- Reads the hyphen before an entry of a sequence. -/
def blockEntry? (lexer : Lexer) : Option Lexer := do
  let lexer ← lexer.openBlockHere? .blockSequenceStart
  let lexer ← lexer.dropCandidate?
  return { lexer.emitSkipping .blockEntry 1 with keyAllowed := true }

/-- Reads the question mark before a key. -/
def keyIndicator? (lexer : Lexer) : Option Lexer := do
  let lexer ← lexer.openBlockHere? .blockMappingStart
  let lexer ← lexer.dropCandidate?
  return { lexer.emitSkipping .key 1 with keyAllowed := !lexer.inFlow }

/-- Reads the colon before a value; the candidate before it is a key. -/
def valueIndicator? (lexer : Lexer) : Option Lexer := do
  match lexer.candidate with
  | some found =>
      let lexer :=
        (lexer.insertAt found.position .key).openBlock
          found.mark.column found.position .blockMappingStart
      return { lexer.emitSkipping .value 1 with
        candidate := none
        keyAllowed := false }
  | none =>
      let lexer ← lexer.openBlockHere? .blockMappingStart
      return { lexer.emitSkipping .value 1 with keyAllowed := !lexer.inFlow }

/-- Reads a part of a node that may be a key. -/
def nodePart?
    (lexer : Lexer)
    (read : Cursor → Option (Token × Cursor)) :
    Option Lexer := do
  let lexer ← lexer.saveCandidate?
  let (token, cursor) ← read lexer.cursor
  return { lexer.emit token with cursor, keyAllowed := false }

/-- Reads a block scalar. -/
def blockScalar? (lexer : Lexer) (folded : Bool) : Option Lexer := do
  let lexer ← lexer.dropCandidate?
  let (content, cursor) ←
    BlockScalar.read? folded lexer.indent lexer.cursor.skip
  return { lexer.emit (.scalar .quoted content) with
    cursor
    keyAllowed := true }

/-- Reads a plain scalar.  After a line break that follows it a key may start. -/
def plainScalar? (lexer : Lexer) : Option Lexer := do
  let lexer ← lexer.saveCandidate?
  let (content, broken, cursor) ←
    PlainScalar.read? lexer.inFlow (lexer.indent + 1).toNat lexer.cursor
  return { lexer.emit (.scalar .plain content) with
    cursor
    keyAllowed := broken }

/-- Characters with which a plain scalar never starts, whatever follows them. -/
def isIndicator (character : Char) : Bool :=
  ['-', '?', ':', ',', '[', ']', '{', '}', '#', '&', '*', '!', '|', '>', '\'',
    '"', '%', '@', '\x60'].contains character

/-- Whether a plain scalar can start with a character before another one. -/
def startsPlain
    (lexer : Lexer)
    (character : Char)
    (following : Option Char) :
    Bool :=
  (!isIndicator character && !isBlankOrBreak character)
    || (character == '-' && !following.any isBlank)
    || (!lexer.inFlow && (character == '?' || character == ':')
      && !orEnd isBlankOrBreak following)

/-- Reads a token that starts with a character. -/
def tokenStartingWith? (lexer : Lexer) (character : Char) : Option Lexer :=
  let following := lexer.cursor.peekAt? 1
  let separated := orEnd isBlankOrBreak following
  if lexer.column == 0 && character == '%' then
    lexer.directive?
  else if lexer.cursor.atIndicator '-' then
    lexer.documentIndicator? .documentStart
  else if lexer.cursor.atIndicator '.' then
    lexer.documentIndicator? .documentEnd
  else if character == '[' then
    lexer.openFlow? .flowSequenceStart
  else if character == '{' then
    lexer.openFlow? .flowMappingStart
  else if character == ']' then
    lexer.closeFlow? .flowSequenceEnd
  else if character == '}' then
    lexer.closeFlow? .flowMappingEnd
  else if character == ',' then
    lexer.flowEntry?
  else if character == '-' && separated then
    lexer.blockEntry?
  else if character == '?' && (lexer.inFlow || separated) then
    lexer.keyIndicator?
  else if character == ':' && (lexer.inFlow || separated) then
    lexer.valueIndicator?
  else if character == '*' then
    lexer.nodePart? fun cursor => do
      let (name, cursor) ← readAnchorName? cursor.skip
      return (.reference name, cursor)
  else if character == '&' then
    lexer.nodePart? fun cursor => do
      let (name, cursor) ← readAnchorName? cursor.skip
      return (.anchor name, cursor)
  else if character == '!' then
    lexer.nodePart? (readTag? lexer.inFlow)
  else if character == '|' && !lexer.inFlow then
    lexer.blockScalar? false
  else if character == '>' && !lexer.inFlow then
    lexer.blockScalar? true
  else if character == '\'' || character == '"' then
    lexer.nodePart? fun cursor => do
      let (content, cursor) ←
        QuotedScalar.read? (character == '\'') cursor.skip
      return (.scalar .quoted content, cursor)
  else if lexer.startsPlain character following then
    lexer.plainScalar?
  else
    none

/-! ## The whole text -/

/--
Goes over blanks, comments and line breaks to the next token.  Tabs count as
blanks only where no key may start.  Outside of brackets a key may start after a
line break.
-/
def skipBetween : Nat → Lexer → Lexer
  | 0, lexer => lexer
  | rounds + 1, lexer =>
      let cursor :=
        if lexer.column = 0 && lexer.cursor.nextIs (· == byteOrderMark) then
          lexer.cursor.skip
        else
          lexer.cursor
      let blank := fun (character : Char) =>
        character == ' '
          || ((lexer.inFlow || !lexer.keyAllowed) && character == '\t')
      let cursor := (cursor.skipWhile blank).skipComment
      if cursor.nextIs isBreak then
        skipBetween rounds
          { lexer with
            cursor := cursor.skipBreak
            keyAllowed := lexer.keyAllowed || !lexer.inFlow }
      else
        { lexer with cursor }

/-- Ends the text: all blocks are closed, and no key may be left without its colon. -/
def finish? (lexer : Lexer) : Option (List Token) := do
  let lexer ← (lexer.closeBlocks (-1)).dropCandidate?
  return lexer.tokens.toList

/-- Reads token after token up to the end of the text. -/
def run? : Nat → Lexer → Option (List Token)
  | 0, _ => none
  | rounds + 1, lexer => do
      let lexer := lexer.skipBetween (lexer.cursor.rest.length + 1)
      let lexer ← lexer.dropStale?
      let lexer := lexer.closeBlocks lexer.column
      match lexer.cursor.peek? with
      | none => lexer.finish?
      | some character =>
          let lexer ← lexer.tokenStartingWith? character
          run? rounds lexer

end Lexer

/-- Cuts a text into tokens.  Characters that YAML does not allow are refused. -/
def Token.cut? (text : List Char) : Option (List Token) := do
  guard (text.all isAllowed)
  (Lexer.start text).run? (text.length + 1)

end LeafPatch.Yaml
