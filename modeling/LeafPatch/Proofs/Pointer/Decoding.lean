import LeafPatch.Pointer
import Mathlib.Data.List.Basic

/-!
# Reading pointers

A pointer is read by cutting it at its slashes and undoing the escapes of each
token: first a tilde and a one become a slash, then a tilde and a zero become a
tilde.  Reading undoes writing for all keys in the escaped style, and in the raw
style for keys without slashes.  Hence different places have different pointers,
and one pointer goes on where another ends only if their places do so.

A pointer below a base is read in the same way, once the base is taken off.
-/

namespace LeafPatch.Pointer

/-! ## Writing -/

/-- A key that can be told from others in a pointer. -/
def Legible (style : Style) (key : String) : Prop :=
  style = .raw → '/' ∉ key.toList

theorem legible_escaped (key : String) : Legible .escaped key := by
  intro isRaw
  cases isRaw

/-- The characters that following keys appends to a pointer. -/
def path (style : Style) (keys : List String) : List Char :=
  keys.flatMap fun key => '/' :: (segment style key).toList

@[simp]
theorem path_nil (style : Style) : path style [] = [] :=
  rfl

theorem path_cons
    (style : Style)
    (key : String)
    (keys : List String) :
    path style (key :: keys) =
      '/' :: (segment style key).toList ++ path style keys :=
  List.flatMap_cons

theorem toList_descend
    (style : Style)
    (pointer : String)
    (keys : List String) :
    (descend style pointer keys).toList = pointer.toList ++ path style keys := by
  induction keys generalizing pointer with
  | nil => simp
  | cons key rest ih =>
      rw [descend_cons, ih, path_cons]
      simp [child]

theorem escapeChar_of_ne
    {character : Char}
    (notTilde : character ≠ '~')
    (notSlash : character ≠ '/') :
    escapeChar character = [character] := by
  unfold escapeChar
  split
  · exact absurd rfl notTilde
  · exact absurd rfl notSlash
  · rfl

/-- No token of a pointer has a slash. -/
theorem slash_not_mem_segment
    {style : Style}
    {key : String}
    (legible : Legible style key) :
    '/' ∉ (segment style key).toList := by
  cases style with
  | raw => exact legible rfl
  | escaped =>
      rw [segment, String.toList_ofList, List.mem_flatMap]
      rintro ⟨character, -, member⟩
      by_cases tilde : character = '~'
      · subst tilde
        simp [escapeChar] at member
      · by_cases slash : character = '/'
        · subst slash
          simp [escapeChar] at member
        · rw [escapeChar_of_ne tilde slash, List.mem_singleton] at member
          exact slash member.symm

/-! ## Undoing escapes -/

/-- Each tilde before the mark, together with the mark, becomes the character. -/
def replaceMark (mark character : Char) : List Char → List Char
  | [] => []
  | [last] => [last]
  | first :: second :: rest =>
      if first = '~' ∧ second = mark then
        character :: replaceMark mark character rest
      else
        first :: replaceMark mark character (second :: rest)

/-- The characters of a key, from those of its token. -/
def unescape (token : List Char) : List Char :=
  replaceMark '0' '~' (replaceMark '1' '/' token)

theorem replaceMark_cons_of_ne
    {mark character first : Char}
    (notTilde : first ≠ '~')
    (rest : List Char) :
    replaceMark mark character (first :: rest) =
      first :: replaceMark mark character rest := by
  cases rest with
  | nil => rfl
  | cons second rest => simp [replaceMark, notTilde]

/-- The escapes of tildes alone, which is what the first replacement leaves. -/
def escapeTilde (character : Char) : List Char :=
  if character = '~' then ['~', '0'] else [character]

/-- The escapes of slashes alone, which leave those of tildes as they are. -/
def escapeSlash (character : Char) : List Char :=
  if character = '/' then ['~', '1'] else [character]

/-- A key with its tildes replaced first, and then its slashes. -/
def escape (key : String) : String :=
  String.ofList ((key.toList.flatMap escapeTilde).flatMap escapeSlash)

theorem segment_escaped (key : String) : segment .escaped key = escape key := by
  have oneByOne (character : Char) :
      escapeChar character = (escapeTilde character).flatMap escapeSlash := by
    by_cases tilde : character = '~'
    · subst tilde
      rfl
    · by_cases slash : character = '/'
      · subst slash
        rfl
      · rw [escapeChar_of_ne tilde slash, escapeTilde, if_neg tilde,
          List.flatMap_singleton, escapeSlash, if_neg slash]
  rw [segment, escape, List.flatMap_assoc]
  congr 1
  apply List.flatMap_congr
  intro character _
  exact oneByOne character

theorem replaceMark_escapeChar (characters : List Char) :
    replaceMark '1' '/' (characters.flatMap escapeChar) =
      characters.flatMap escapeTilde := by
  induction characters with
  | nil => rfl
  | cons character rest ih =>
      rw [List.flatMap_cons, List.flatMap_cons]
      by_cases tilde : character = '~'
      · subst tilde
        change replaceMark '1' '/' ('~' :: '0' :: rest.flatMap escapeChar) = _
        rw [replaceMark, if_neg (by decide),
          replaceMark_cons_of_ne (by decide), ih]
        rfl
      · rw [show escapeTilde character = [character] from if_neg tilde]
        by_cases slash : character = '/'
        · subst slash
          change replaceMark '1' '/' ('~' :: '1' :: rest.flatMap escapeChar) = _
          rw [replaceMark, if_pos ⟨rfl, rfl⟩, ih]
          rfl
        · rw [escapeChar_of_ne tilde slash, List.singleton_append,
            replaceMark_cons_of_ne tilde, ih, List.singleton_append]

theorem replaceMark_escapeTilde (characters : List Char) :
    replaceMark '0' '~' (characters.flatMap escapeTilde) = characters := by
  induction characters with
  | nil => rfl
  | cons character rest ih =>
      rw [List.flatMap_cons]
      by_cases tilde : character = '~'
      · subst tilde
        change replaceMark '0' '~' ('~' :: '0' :: rest.flatMap escapeTilde) = _
        rw [replaceMark, if_pos ⟨rfl, rfl⟩, ih]
      · rw [show escapeTilde character = [character] from if_neg tilde,
          List.singleton_append, replaceMark_cons_of_ne tilde, ih]

/-- Undoing the escapes of a key gives the key. -/
theorem unescape_escape (characters : List Char) :
    unescape (characters.flatMap escapeChar) = characters := by
  rw [unescape, replaceMark_escapeChar, replaceMark_escapeTilde]

/-! ## Reading -/

/-- The key that a token of a pointer stands for. -/
def keyOfToken (style : Style) (token : List Char) : String :=
  match style with
  | .raw => String.ofList token
  | .escaped => String.ofList (unescape token)

/-- The keys that a pointer follows from the root. -/
def keys? (style : Style) (pointer : String) : Option (List String) :=
  match pointer.toList with
  | [] => some []
  | first :: rest =>
      if first = '/' then
        some ((rest.splitOn '/').map (keyOfToken style))
      else
        none

@[simp]
theorem keyOfToken_segment (style : Style) (key : String) :
    keyOfToken style (segment style key).toList = key := by
  cases style with
  | raw => exact String.ofList_toList
  | escaped =>
      rw [keyOfToken, segment, String.toList_ofList, unescape_escape,
        String.ofList_toList]

theorem splitOn_path
    {style : Style}
    {key : String}
    {keys : List String}
    (legible : ∀ name ∈ key :: keys, Legible style name) :
    ((segment style key).toList ++ path style keys).splitOn '/' =
      (key :: keys).map fun name => (segment style name).toList := by
  induction keys generalizing key with
  | nil =>
      have noSlash := slash_not_mem_segment (legible key List.mem_cons_self)
      simpa using List.splitOn_eq_singleton noSlash
  | cons next rest ih =>
      have noSlash := slash_not_mem_segment (legible key List.mem_cons_self)
      have later := ih fun name member =>
        legible name (List.mem_cons_of_mem _ member)
      rw [path_cons, List.cons_append, List.splitOn_append_cons_self, later,
        List.splitOn_eq_singleton noSlash]
      rfl

/-- Reading a written pointer gives back the keys. -/
theorem keys?_descend
    {style : Style}
    {keys : List String}
    (legible : ∀ key ∈ keys, Legible style key) :
    keys? style (descend style "" keys) = some keys := by
  rw [keys?, toList_descend, String.toList_empty, List.nil_append]
  cases keys with
  | nil => rfl
  | cons key rest =>
      rw [path_cons, List.cons_append]
      simp [splitOn_path legible, Function.comp_def]

/-- A pointer has each key behind a slash. -/
theorem descend_eq_join
    (style : Style)
    (pointer : String)
    (keys : List String) :
    descend style pointer keys =
      pointer ++ String.join (keys.map fun key => "/" ++ segment style key) := by
  rw [← String.toList_inj, toList_descend, String.toList_append,
    String.toList_join, List.flatMap_map, path]
  congr 1
  apply List.flatMap_congr
  intro key _
  rw [String.toList_append]
  rfl

/-- The keys that a pointer follows from where a base leads. -/
def keysFrom? (style : Style) (base pointer : String) : Option (List String) :=
  (pointer.toList.dropPrefix? base.toList).bind fun rest =>
    keys? style (String.ofList rest)

theorem keysFrom?_descend
    {style : Style}
    {base : String}
    {keys : List String}
    (legible : ∀ key ∈ keys, Legible style key) :
    keysFrom? style base (descend style base keys) = some keys := by
  have isPath :
      String.ofList (path style keys) = descend style "" keys := by
    rw [← String.toList_inj, toList_descend, String.toList_ofList]
    rfl
  rw [keysFrom?, toList_descend, List.dropPrefix?_append_of_beq _ BEq.rfl,
    Option.bind_some, isPath, keys?_descend legible]

/-! ## Places and pointers -/

/-- A pointer goes on where another one ends. -/
def Above (upper lower : String) : Prop :=
  ∃ rest, lower = upper ++ "/" ++ rest

/-- Two texts that are equal up to a slash and on from it are cut alike. -/
theorem append_inj_of_slash
    {left right leftRest rightRest : List Char}
    (noSlashLeft : '/' ∉ left)
    (noSlashRight : '/' ∉ right)
    (leftStart : leftRest.head? = none ∨ leftRest.head? = some '/')
    (rightStart : rightRest.head? = none ∨ rightRest.head? = some '/')
    (equal : left ++ leftRest = right ++ rightRest) :
    left = right ∧ leftRest = rightRest := by
  induction left generalizing right with
  | nil =>
      cases right with
      | nil => exact ⟨rfl, equal⟩
      | cons first others =>
          rw [List.nil_append] at equal
          subst equal
          rcases leftStart with start | start
          · cases start
          · simp only [List.cons_append, List.head?_cons,
              Option.some.injEq] at start
            exact absurd (start ▸ List.mem_cons_self) noSlashRight
  | cons character rest ih =>
      cases right with
      | nil =>
          rw [List.nil_append] at equal
          subst equal
          rcases rightStart with start | start
          · cases start
          · simp only [List.cons_append, List.head?_cons,
              Option.some.injEq] at start
            exact absurd (start ▸ List.mem_cons_self) noSlashLeft
      | cons first others =>
          simp only [List.cons_append, List.cons.injEq] at equal
          rcases equal with ⟨rfl, equal⟩
          rcases
              ih (fun member => noSlashLeft (List.mem_cons_of_mem _ member))
                (fun member => noSlashRight (List.mem_cons_of_mem _ member))
                equal with
            ⟨rfl, rfl⟩
          exact ⟨rfl, rfl⟩

theorem head?_path (style : Style) (keys : List String) :
    (path style keys).head? = none ∨ (path style keys).head? = some '/' := by
  cases keys with
  | nil => exact Or.inl rfl
  | cons key rest => exact Or.inr rfl

theorem segment_injective (style : Style) :
    Function.Injective (segment style) := by
  intro left right equal
  rw [← keyOfToken_segment style left, equal, keyOfToken_segment]

/-- A path that another one begins with belongs to a place above. -/
theorem prefix_of_path_append
    {style : Style}
    {keys others : List String}
    {rest : List Char}
    (legible : ∀ key ∈ keys, Legible style key)
    (otherLegible : ∀ key ∈ others, Legible style key)
    (start : rest.head? = none ∨ rest.head? = some '/')
    (equal : path style keys ++ rest = path style others) :
    keys <+: others := by
  induction keys generalizing others with
  | nil => exact List.nil_prefix
  | cons key keys ih =>
      cases others with
      | nil => simp [path_cons] at equal
      | cons other others =>
          simp only [path_cons, List.cons_append, List.append_assoc,
            List.cons.injEq, true_and] at equal
          have laterStart :
              (path style keys ++ rest).head? = none
                ∨ (path style keys ++ rest).head? = some '/' := by
            cases keys with
            | nil => exact start
            | cons next later => exact Or.inr rfl
          rcases
              append_inj_of_slash
                (slash_not_mem_segment (legible key List.mem_cons_self))
                (slash_not_mem_segment (otherLegible other List.mem_cons_self))
                laterStart (head?_path style others) equal with
            ⟨sameSegment, equal⟩
          have sameKey := segment_injective style (String.toList_inj.mp sameSegment)
          refine List.cons_prefix_cons.mpr ⟨sameKey, ih ?_ ?_ equal⟩
          · exact fun name member =>
              legible name (List.mem_cons_of_mem _ member)
          · exact fun name member =>
              otherLegible name (List.mem_cons_of_mem _ member)

/-- Different places have different pointers. -/
theorem descend_inj
    {style : Style}
    {pointer : String}
    {keys others : List String}
    (legible : ∀ key ∈ keys, Legible style key)
    (otherLegible : ∀ key ∈ others, Legible style key)
    (equal : descend style pointer keys = descend style pointer others) :
    keys = others := by
  have samePath : path style keys = path style others := by
    have sameCharacters := congrArg String.toList equal
    rw [toList_descend, toList_descend] at sameCharacters
    exact List.append_cancel_left sameCharacters
  have above : keys <+: others :=
    prefix_of_path_append legible otherLegible (Or.inl rfl)
      ((List.append_nil _).trans samePath)
  have below : others <+: keys :=
    prefix_of_path_append otherLegible legible (Or.inl rfl)
      ((List.append_nil _).trans samePath.symm)
  exact above.eq_of_length_le below.length_le

/--
A pointer goes on where another ends only if its place is properly below the
other's.
-/
theorem prefix_of_above_descend
    {style : Style}
    {pointer : String}
    {keys others : List String}
    (legible : ∀ key ∈ keys, Legible style key)
    (otherLegible : ∀ key ∈ others, Legible style key)
    (above :
      Above (descend style pointer keys) (descend style pointer others)) :
    keys <+: others ∧ keys ≠ others := by
  rcases above with ⟨rest, equal⟩
  have samePath : path style keys ++ '/' :: rest.toList = path style others := by
    have sameCharacters := congrArg String.toList equal
    rw [String.toList_append, String.toList_append, toList_descend,
      toList_descend, List.append_assoc, List.append_assoc] at sameCharacters
    exact (List.append_cancel_left sameCharacters).symm
  constructor
  · exact prefix_of_path_append legible otherLegible (Or.inr rfl) samePath
  · rintro rfl
    simp at samePath

end LeafPatch.Pointer
