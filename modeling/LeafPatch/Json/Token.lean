import LeafPatch.Json.Numeral

/-!
# JSON tokens

A JSON text is first cut into tokens: brackets, separators, the three literals,
numbers and strings.  Between tokens there may be blanks, tabs and line ends.
Two tokens that are neither brackets, separators nor strings are never next to
each other in a JSON text, so a run of letters, digits and signs is one token or
an error.
-/

namespace LeafPatch.Json

/-- A token of a JSON text. -/
inductive Token where
  | openArray
  | closeArray
  | openObject
  | closeObject
  | comma
  | colon
  | null
  | bool (value : Bool)
  | number (value : Numeral)
  | text (value : String)
  deriving DecidableEq

namespace Token

/-! ## Strings -/

/-- A piece of a string: a character as it stands, or a code unit given by an escape. -/
inductive Piece where
  | plain (character : Char)
  | unit (value : Nat)

/-- The value of a hexadecimal digit. -/
def hexValue? (digit : Char) : Option Nat :=
  if digit.isDigit then
    some (digit.toNat - '0'.toNat)
  else if 'a' ≤ digit ∧ digit ≤ 'f' then
    some (digit.toNat - 'a'.toNat + 10)
  else if 'A' ≤ digit ∧ digit ≤ 'F' then
    some (digit.toNat - 'A'.toNat + 10)
  else
    none

/-- The value of hexadecimal digits, most significant first. -/
def hexNumber? (digits : List Char) : Option Nat :=
  digits.foldlM
    (fun value digit => (hexValue? digit).map (value * 16 + ·)) 0

/-- The character that a one-letter escape stands for. -/
def escapeLetter? : Char → Option Char
  | '"' => some '"'
  | '\\' => some '\\'
  | '/' => some '/'
  | 'b' => some '\x08'
  | 'f' => some '\x0c'
  | 'n' => some '\n'
  | 'r' => some '\r'
  | 't' => some '\t'
  | _ => none

/-- Takes the escapes of a string apart.  Control characters must be escaped. -/
def pieces? : List Char → Option (List Piece)
  | [] => some []
  | '\\' :: 'u' :: a :: b :: c :: d :: rest => do
      let value ← hexNumber? [a, b, c, d]
      let others ← pieces? rest
      return .unit value :: others
  | '\\' :: letter :: rest => do
      let character ← escapeLetter? letter
      let others ← pieces? rest
      return .plain character :: others
  | character :: rest => do
      guard (32 ≤ character.toNat && character != '\\')
      let others ← pieces? rest
      return .plain character :: others

/-- Whether a code unit is the first of a surrogate pair. -/
def isLeading (value : Nat) : Bool :=
  0xD800 ≤ value && value < 0xDC00

/-- Whether a code unit is the second of a surrogate pair. -/
def isTrailing (value : Nat) : Bool :=
  0xDC00 ≤ value && value < 0xE000

/-- Joins surrogate pairs.  A surrogate that is not part of a pair is refused. -/
def join? : List Piece → Option (List Char)
  | [] => some []
  | .plain character :: rest => do
      let others ← join? rest
      return character :: others
  | .unit first :: .unit second :: rest =>
      if isLeading first && isTrailing second then do
        let others ← join? rest
        let value :=
          0x10000 + (first - 0xD800) * 0x400 + (second - 0xDC00)
        return Char.ofNat value :: others
      else do
        guard (!isLeading first && !isTrailing first)
        let others ← join? (.unit second :: rest)
        return Char.ofNat first :: others
  | .unit value :: rest => do
      guard (!isLeading value && !isTrailing value)
      let others ← join? rest
      return Char.ofNat value :: others

/-- The content of a string, from what stands between its quotes. -/
def content? (body : List Char) : Option String := do
  let pieces ← pieces? body
  let characters ← join? pieces
  return String.ofList characters

/-! ## Cutting -/

/-- Where the cutting stands; characters read so far are kept last first. -/
inductive Mode where
  | between
  | inWord (read : List Char)
  | inString (read : List Char)
  | afterBackslash (read : List Char)

/-- Whether a character may stand between tokens. -/
def isBlank (character : Char) : Bool :=
  character == ' ' || character == '\t'
    || character == '\n' || character == '\r'

/-- The bracket or separator that a character is. -/
def punctuation? : Char → Option Token
  | '[' => some openArray
  | ']' => some closeArray
  | '{' => some openObject
  | '}' => some closeObject
  | ',' => some comma
  | ':' => some colon
  | _ => none

/-- Whether a character can be part of a literal or a number. -/
def isWordChar (character : Char) : Bool :=
  character.isAlphanum || character == '-'
    || character == '+' || character == '.'

/-- The literal or number that a run of characters spells. -/
def ofWord? (word : List Char) : Option Token :=
  if word = "null".toList then some null
  else if word = "true".toList then some (bool true)
  else if word = "false".toList then some (bool false)
  else (Numeral.ofChars? word).map number

/--
What a character outside strings and words does: the token it is, if any, and
the mode after it.
-/
def start? (character : Char) : Option (List Token × Mode) :=
  if isBlank character then
    some ([], .between)
  else if character = '"' then
    some ([], .inString [])
  else if isWordChar character then
    some ([], .inWord [character])
  else
    (punctuation? character).map fun token => ([token], .between)

/-- What one character does: the tokens that it completes and the mode after it. -/
def step? : Mode → Char → Option (List Token × Mode)
  | .between, character => start? character
  | .inWord read, character =>
      if isWordChar character then
        some ([], .inWord (character :: read))
      else do
        let word ← ofWord? read.reverse
        let (tokens, mode) ← start? character
        return (word :: tokens, mode)
  | .inString read, character =>
      if character = '"' then
        (content? read.reverse).map fun content =>
          ([text content], .between)
      else if character = '\\' then
        some ([], .afterBackslash (character :: read))
      else
        some ([], .inString (character :: read))
  | .afterBackslash read, character =>
      some ([], .inString (character :: read))

/-- What the end of the text does. -/
def finish? : Mode → Option (List Token)
  | .between => some []
  | .inWord read => (ofWord? read.reverse).map ([·])
  | .inString _ => none
  | .afterBackslash _ => none

/-- Cuts a text into tokens, starting in the given mode. -/
def cutFrom? (mode : Mode) : List Char → Option (List Token)
  | [] => finish? mode
  | character :: rest => do
      let (tokens, next) ← step? mode character
      let others ← cutFrom? next rest
      return tokens ++ others

/-- Cuts a text into tokens. -/
def cut? (text : List Char) : Option (List Token) :=
  cutFrom? .between text

end Token

end LeafPatch.Json
