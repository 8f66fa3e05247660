import LeafPatch.Yaml.Cursor

/-!
# Line folding

What stands between two words of a scalar that is not a block: blanks of one
line, which are kept, or line breaks with blanks around them, which are folded.
A single line break becomes a space; of several, the first one is dropped.
Breaks that are no line feeds are all kept.
-/

namespace LeafPatch.Yaml

/-- What stands between two words. -/
inductive Gap where
  /-- Blanks of the same line. -/
  | blanks (read : List Char)
  /-- A first line break, if it counts, and those after it. -/
  | breaks (first others : List Char)

namespace Gap

/-- Nothing. -/
def none : Gap :=
  blanks []

/-- What an escaped line break leaves: breaks of which the first does not count. -/
def afterEscape : Gap :=
  breaks [] []

/-- Whether there is a line break. -/
def hasBreak : Gap → Bool
  | blanks _ => false
  | breaks _ _ => true

/-- What the gap is in the content of the scalar. -/
def fold : Gap → List Char
  | blanks read => read
  | breaks first others =>
      if first = ['\n'] then
        if others.isEmpty then [' '] else others
      else
        first ++ others

/-- The gap with another blank: it counts on the first line only. -/
def addBlank (gap : Gap) (character : Char) : Gap :=
  match gap with
  | blanks read => blanks (read ++ [character])
  | breaks first others => breaks first others

/-- The gap with another line break: blanks before the first one do not count. -/
def addBreak (gap : Gap) (character : Char) : Gap :=
  match gap with
  | blanks _ => breaks [character] []
  | breaks first others => breaks first (others ++ [character])

/--
Reads the rest of a gap.  A tab on a later line must not stand before the column
`floor`, where indentation is expected.
-/
def readFrom? (floor : Nat) (gap : Gap) (mark : Mark) :
    List Char → Option (Gap × Cursor)
  | [] => some (gap, ⟨mark, []⟩)
  | '\r' :: '\n' :: rest =>
      readFrom? floor (gap.addBreak '\n') (mark.nextLine 2) rest
  | character :: rest =>
      if isBlank character then
        if gap.hasBreak && mark.column < floor && character == '\t' then
          Option.none
        else
          readFrom? floor (gap.addBlank character)
            (mark.next character) rest
      else if isBreak character then
        readFrom? floor (gap.addBreak (normalizedBreak character))
          (mark.nextLine character.utf8Size) rest
      else
        some (gap, ⟨mark, character :: rest⟩)

/-- Reads the rest of a gap. -/
def read?
    (floor : Nat)
    (gap : Gap)
    (cursor : Cursor) :
    Option (Gap × Cursor) :=
  gap.readFrom? floor cursor.mark cursor.rest

end Gap

end LeafPatch.Yaml
