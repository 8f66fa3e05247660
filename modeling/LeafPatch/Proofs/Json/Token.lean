import LeafPatch.Json.Printer
import LeafPatch.Proofs.Json.Numeral
import Mathlib.Data.List.Forall2
import Mathlib.Data.Option.Basic

/-!
# Cutting what is written

Each thing that is written as JSON is cut off from what follows it: a bracket or
separator and a string always, a literal or number as long as no character of a
word follows.  So every statement here is about a text with any rest.

A string is read character by character.  The written form of a character leads
from inside the string to inside the string, and what is read between the quotes
falls into one piece for each character.
-/

namespace LeafPatch.Json.Token

/-! ## Steps -/

theorem cutFrom?_cons
    {mode next : Mode}
    {character : Char}
    {tokens : List Token}
    (step : step? mode character = some (tokens, next))
    (rest : List Char) :
    cutFrom? mode (character :: rest) =
      (cutFrom? next rest).map (tokens ++ ·) := by
  cases others : cutFrom? next rest <;> simp [cutFrom?, step, others]

/-- A step that completes no token only changes the mode. -/
theorem cutFrom?_cons_of_silent
    {mode next : Mode}
    {character : Char}
    (step : step? mode character = some ([], next))
    (rest : List Char) :
    cutFrom? mode (character :: rest) = cutFrom? next rest := by
  rw [cutFrom?_cons step]
  exact congrFun Option.map_id _

theorem cutFrom?_punctuation
    {character : Char}
    {token : Token}
    (isPunctuation : punctuation? character = some token)
    (rest : List Char) :
    cutFrom? .between (character :: rest) =
      (cutFrom? .between rest).map (token :: ·) := by
  have step : step? .between character = some ([token], .between) := by
    unfold punctuation? at isPunctuation
    split at isPunctuation <;> cases isPunctuation <;> rfl
  exact cutFrom?_cons step rest

/-! ## Words -/

/-- No character of a word comes first. -/
def EndsWord (rest : List Char) : Prop :=
  ∀ character ∈ rest.head?, isWordChar character = false

theorem endsWord_nil : EndsWord [] := by
  rintro character ⟨⟩

theorem endsWord_cons_iff
    {character : Char}
    {rest : List Char} :
    EndsWord (character :: rest) ↔ isWordChar character = false := by
  simp [EndsWord]

theorem start?_of_isWordChar
    {character : Char}
    (isWord : isWordChar character = true) :
    start? character = some ([], .inWord [character]) := by
  have notBlank : ¬ isBlank character = true := by
    intro blank
    simp only [isBlank, Bool.or_eq_true, beq_iff_eq] at blank
    rcases blank with ((rfl | rfl) | rfl) | rfl <;> exact absurd isWord (by decide)
  have notQuote : character ≠ '"' := by
    rintro rfl
    exact absurd isWord (by decide)
  rw [start?, if_neg notBlank, if_neg notQuote, if_pos isWord]

theorem cutFrom?_inWord_append
    {word : List Char}
    (wordlike : Wordlike word)
    (read rest : List Char) :
    cutFrom? (.inWord read) (word ++ rest) =
      cutFrom? (.inWord (word.reverse ++ read)) rest := by
  induction word generalizing read with
  | nil => rfl
  | cons character word ih =>
      rw [wordlike_cons_iff] at wordlike
      have step :
          step? (.inWord read) character =
            some ([], .inWord (character :: read)) := by
        rw [step?, if_pos wordlike.1]
      rw [List.cons_append, cutFrom?_cons_of_silent step, ih wordlike.2,
        List.reverse_cons, List.append_assoc]
      rfl

/-- A word that is over is a token before those of the rest. -/
theorem cutFrom?_inWord
    {read rest : List Char}
    {token : Token}
    (spells : ofWord? read.reverse = some token)
    (boundary : EndsWord rest) :
    cutFrom? (.inWord read) rest =
      (cutFrom? .between rest).map (token :: ·) := by
  cases rest with
  | nil =>
      rw [cutFrom?, finish?, spells]
      rfl
  | cons character rest =>
      rw [endsWord_cons_iff] at boundary
      rw [cutFrom?, cutFrom?, step?, step?, if_neg (by simp [boundary]), spells]
      cases start? character with
      | none => rfl
      | some started =>
          rcases started with ⟨tokens, mode⟩
          cases isRest : cutFrom? mode rest with
          | none => simp [isRest]
          | some others => simp [isRest]

theorem cutFrom?_word
    {word : List Char}
    {token : Token}
    (spells : ofWord? word = some token)
    (nonempty : word ≠ [])
    (wordlike : Wordlike word)
    {rest : List Char}
    (boundary : EndsWord rest) :
    cutFrom? .between (word ++ rest) =
      (cutFrom? .between rest).map (token :: ·) := by
  cases word with
  | nil => exact absurd rfl nonempty
  | cons first later =>
      rw [wordlike_cons_iff] at wordlike
      have step : step? .between first = some ([], .inWord [first]) :=
        start?_of_isWordChar wordlike.1
      rw [List.cons_append, cutFrom?_cons_of_silent step,
        cutFrom?_inWord_append wordlike.2]
      apply cutFrom?_inWord _ boundary
      rw [List.reverse_append, List.reverse_reverse]
      exact spells

theorem ofWord?_write
    {value : Numeral}
    (legible : value.Legible) :
    ofWord? value.write = some (.number value) := by
  have noLiteral (literal : List Char) (unread : Numeral.ofChars? literal = none) :
      value.write ≠ literal := by
    intro same
    rw [Numeral.Legible, same, unread] at legible
    cases legible
  rw [ofWord?, if_neg (noLiteral _ rfl), if_neg (noLiteral _ rfl),
    if_neg (noLiteral _ rfl), legible]
  rfl

theorem cutFrom?_number
    {value : Numeral}
    (legible : value.Legible)
    {rest : List Char}
    (boundary : EndsWord rest) :
    cutFrom? .between (value.write ++ rest) =
      (cutFrom? .between rest).map (.number value :: ·) :=
  cutFrom?_word (ofWord?_write legible) legible.write_ne_nil value.wordlike_write
    boundary

/-! ## Strings -/

/-- How a character is written in a string: by a letter, by its code, or as it is. -/
inductive WrittenChar : Char → List Char → Prop where
  | letter
      {character letter : Char}
      (escape : escapeLetter? letter = some character)
      (noCode : letter ≠ 'u') :
      WrittenChar character ['\\', letter]
  | code
      {character : Char}
      (control : character.toNat < 32) :
      WrittenChar character
        ['\\', 'u', '0', '0',
          hexDigit (character.toNat / 16), hexDigit character.toNat]
  | plain
      {character : Char}
      (noControl : 32 ≤ character.toNat)
      (noQuote : character ≠ '"')
      (noBackslash : character ≠ '\\') :
      WrittenChar character [character]

theorem writtenChar (character : Char) :
    WrittenChar character (writeChar character) := by
  unfold writeChar
  split
  case h_8 noQuote noBackslash _ _ _ _ _ =>
    split
    · next control => exact .code control
    · next noControl =>
        exact .plain (Nat.le_of_not_lt noControl) noQuote noBackslash
  all_goals exact .letter rfl (by decide)

/-- A piece of a string stands for a character. -/
inductive StandsFor : Piece → Char → Prop where
  | plain (character : Char) : StandsFor (.plain character) character
  | unit
      {character : Char}
      (control : character.toNat < 32) :
      StandsFor (.unit character.toNat) character

theorem hexNumber?_hexDigits :
    ∀ value < 32,
      hexNumber? ['0', '0', hexDigit (value / 16), hexDigit value] =
        some value := by
  decide

theorem pieces?_of_writtenChar
    {character : Char}
    {written : List Char}
    (isWritten : WrittenChar character written) :
    ∃ piece, StandsFor piece character
      ∧ ∀ rest,
          pieces? (written ++ rest) = (pieces? rest).map (piece :: ·) := by
  cases isWritten with
  | letter escape noCode =>
      refine ⟨.plain character, .plain character, fun rest => ?_⟩
      rw [List.cons_append, List.cons_append, List.nil_append, pieces?, escape]
      · cases pieces? rest <;> rfl
      -- Only `u` has four digits after it; any other letter stands alone.
      · rintro a b c d later rfl
        exact absurd rfl noCode
  | code control =>
      refine ⟨.unit character.toNat, .unit control, fun rest => ?_⟩
      simp only [List.cons_append, List.nil_append]
      rw [pieces?, hexNumber?_hexDigits _ control]
      cases pieces? rest <;> rfl
  | plain noControl noQuote noBackslash =>
      refine ⟨.plain character, .plain character, fun rest => ?_⟩
      rw [List.singleton_append, pieces?]
      · have allowed : (32 ≤ character.toNat && character != '\\') = true := by
          simp [noControl, noBackslash]
        rw [allowed]
        cases pieces? rest <;> rfl
      · rintro a b c d later rfl
        exact absurd rfl noBackslash
      · rintro letter later rfl
        exact absurd rfl noBackslash

/-- Every character falls into a piece of its own. -/
theorem pieces?_flatMap (text : List Char) :
    ∃ pieces, List.Forall₂ StandsFor pieces text
      ∧ pieces? (text.flatMap writeChar) = some pieces := by
  induction text with
  | nil => exact ⟨[], .nil, rfl⟩
  | cons character rest ih =>
      rcases pieces?_of_writtenChar (writtenChar character) with
        ⟨piece, stands, read⟩
      rcases ih with ⟨pieces, standing, readRest⟩
      refine ⟨piece :: pieces, .cons stands standing, ?_⟩
      rw [List.flatMap_cons, read, readRest, Option.map_some]

theorem join?_unit
    {value : Nat}
    (small : value < 32)
    (rest : List Piece) :
    join? (.unit value :: rest) =
      (join? rest).map (Char.ofNat value :: ·) := by
  have noLeading : isLeading value = false := by
    simp only [isLeading, Bool.and_eq_false_iff, decide_eq_false_iff_not]
    omega
  have noTrailing : isTrailing value = false := by
    simp only [isTrailing, Bool.and_eq_false_iff, decide_eq_false_iff_not]
    omega
  by_cases pair : ∃ second later, rest = .unit second :: later
  · rcases pair with ⟨second, later, rfl⟩
    rw [join?, noLeading, noTrailing]
    cases join? (.unit second :: later) <;> rfl
  · rw [join?, noLeading, noTrailing]
    · cases join? rest <;> rfl
    · intro second later isPair
      exact pair ⟨second, later, isPair⟩

/-- Codes of control characters are no surrogates. -/
theorem join?_of_standsFor
    {pieces : List Piece}
    {text : List Char}
    (standing : List.Forall₂ StandsFor pieces text) :
    join? pieces = some text := by
  induction standing with
  | nil => rfl
  | cons stands standing ih =>
      cases stands with
      | plain character =>
          rw [join?, ih]
          rfl
      | unit control =>
          rw [join?_unit control, ih, Option.map_some, Char.ofNat_toNat]

theorem content?_flatMap (text : String) :
    content? (text.toList.flatMap writeChar) = some text := by
  rcases pieces?_flatMap text.toList with ⟨pieces, standing, read⟩
  rw [content?, read]
  show (join? pieces).bind (fun characters => some (String.ofList characters)) = _
  rw [join?_of_standsFor standing, Option.bind_some, String.ofList_toList]

/-! ### Between the quotes -/

theorem cutFrom?_inString_plain
    {character : Char}
    (noQuote : character ≠ '"')
    (noBackslash : character ≠ '\\')
    (read rest : List Char) :
    cutFrom? (.inString read) (character :: rest) =
      cutFrom? (.inString (character :: read)) rest :=
  cutFrom?_cons_of_silent
    (by rw [step?, if_neg noQuote, if_neg noBackslash]) rest

theorem cutFrom?_inString_escape
    (letter : Char)
    (read rest : List Char) :
    cutFrom? (.inString read) ('\\' :: letter :: rest) =
      cutFrom? (.inString (letter :: '\\' :: read)) rest := by
  have step :
      step? (.inString read) '\\' = some ([], .afterBackslash ('\\' :: read)) :=
    rfl
  rw [cutFrom?_cons_of_silent step, cutFrom?_cons_of_silent rfl]

/-- A hexadecimal digit is nothing special within a string. -/
theorem hexDigit_ne (value : Nat) :
    hexDigit value ≠ '"' ∧ hexDigit value ≠ '\\' := by
  have sixteen :
      ∀ value < 16,
        Nat.digitChar value ≠ '"' ∧ Nat.digitChar value ≠ '\\' := by
    decide
  exact sixteen (value % 16) (Nat.mod_lt value (by decide))

theorem cutFrom?_inString_of_writtenChar
    {character : Char}
    {written : List Char}
    (isWritten : WrittenChar character written)
    (read rest : List Char) :
    cutFrom? (.inString read) (written ++ rest) =
      cutFrom? (.inString (written.reverse ++ read)) rest := by
  cases isWritten with
  | letter escape noCode => exact cutFrom?_inString_escape _ read rest
  | code control =>
      have high := hexDigit_ne (character.toNat / 16)
      have low := hexDigit_ne character.toNat
      simp only [List.cons_append, List.nil_append]
      rw [cutFrom?_inString_escape,
        cutFrom?_inString_plain (by decide) (by decide),
        cutFrom?_inString_plain (by decide) (by decide),
        cutFrom?_inString_plain high.1 high.2,
        cutFrom?_inString_plain low.1 low.2]
      rfl
  | plain noControl noQuote noBackslash =>
      exact cutFrom?_inString_plain noQuote noBackslash read rest

theorem cutFrom?_inString_flatMap
    (text read rest : List Char) :
    cutFrom? (.inString read) (text.flatMap writeChar ++ rest) =
      cutFrom? (.inString ((text.flatMap writeChar).reverse ++ read)) rest := by
  induction text generalizing read with
  | nil => rfl
  | cons character text ih =>
      rw [List.flatMap_cons, List.append_assoc,
        cutFrom?_inString_of_writtenChar (writtenChar character), ih,
        List.reverse_append, List.append_assoc]

theorem cutFrom?_writeText
    (text : String)
    (rest : List Char) :
    cutFrom? .between (writeText text ++ rest) =
      (cutFrom? .between rest).map (.text text :: ·) := by
  have quote : step? .between '"' = some ([], .inString []) := rfl
  have content :
      step? (.inString (text.toList.flatMap writeChar).reverse) '"' =
        some ([.text text], .between) := by
    rw [step?, if_pos rfl, List.reverse_reverse, content?_flatMap]
    rfl
  rw [writeText, List.cons_append, List.cons_append, List.append_assoc,
    cutFrom?_cons_of_silent quote, cutFrom?_inString_flatMap, List.append_nil,
    List.singleton_append]
  exact cutFrom?_cons content rest

end LeafPatch.Json.Token
