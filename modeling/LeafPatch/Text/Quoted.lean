import LeafPatch.Text.Unprintable

/-!
# Quoted text

Messages show a string between double quotes.  The quote and the backslash have
a backslash in front of them, four control characters are given by a letter, and
every other character that is not shown as it is by its code point.
-/

namespace LeafPatch.Text

/-- A character as it is shown between quotes. -/
def quoteChar (character : Char) : List Char :=
  match character with
  | '"' => ['\\', '"']
  | '\\' => ['\\', '\\']
  | '\t' => ['\\', 't']
  | '\r' => ['\\', 'r']
  | '\n' => ['\\', 'n']
  | '\x00' => ['\\', '0']
  | character =>
      if isUnprintable character then
        '\\' :: 'u' :: '\x7b' :: Nat.toDigits 16 character.toNat ++ ['\x7d']
      else
        [character]

/-- A string as it is shown. -/
def quote (text : String) : String :=
  String.ofList ('"' :: text.toList.flatMap quoteChar ++ ['"'])

end LeafPatch.Text
