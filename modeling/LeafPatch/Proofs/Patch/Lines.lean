import LeafPatch.Patch.Text
import LeafPatch.Proofs.Json.Canonical
import LeafPatch.Proofs.Json.Token
import LeafPatch.Proofs.Patch.Exactness
import LeafPatch.Proofs.Pointer.Decoding

/-!
# Lines of a written patch

In its text form a patch has a line feed after each operation and after its
status.  The value of an operation has none, since in JSON strings they are
escaped.  The pointer may have some: neither style escapes those of a key, and a
base path may have them as well.

So the lines are one for each operation, and one for the status unless that is
clean, exactly if no line feed is in the base path or in the keys of a change.
Each line feed there breaks the line of an operation in two.
-/

namespace LeafPatch

namespace Json

/-! ## Values on one line -/

theorem lineFeed_not_mem_writeChar (character : Char) :
    '\n' ∉ writeChar character := by
  have noDigit (value : Nat) : hexDigit value ≠ '\n' := by
    have sixteen : ∀ value < 16, Nat.digitChar value ≠ '\n' := by
      decide
    exact sixteen (value % 16) (Nat.mod_lt value (by decide))
  have written := Token.writtenChar character
  generalize writeChar character = characters at written ⊢
  cases written with
  | @letter letter escape noCode =>
      have noLineFeed : letter ≠ '\n' := by
        rintro rfl
        cases escape
      simp [noLineFeed.symm]
  | code control =>
      simp [(noDigit _).symm]
  | plain noControl noQuote noBackslash =>
      rw [List.mem_singleton]
      rintro rfl
      exact absurd noControl (by decide)

theorem lineFeed_not_mem_writeText (text : String) :
    '\n' ∉ writeText text := by
  simp [writeText, lineFeed_not_mem_writeChar]

theorem lineFeed_not_mem_writeItems
    {items : List Json}
    (values : ∀ item ∈ items, '\n' ∉ item.write) :
    '\n' ∉ writeItems items := by
  induction items with
  | nil => decide
  | cons item rest ih =>
      rw [List.forall_mem_cons] at values
      simp [writeItems, values.1, ih values.2]

theorem lineFeed_not_mem_writeFields
    {fields : List (String × Json)}
    (values : ∀ key value, (key, value) ∈ fields → '\n' ∉ value.write) :
    '\n' ∉ writeFields fields := by
  induction fields with
  | nil => decide
  | cons field rest ih =>
      rcases field with ⟨key, value⟩
      have first := values key value List.mem_cons_self
      have later :=
        ih fun name other member =>
          values name other (List.mem_cons_of_mem _ member)
      simp [writeFields, lineFeed_not_mem_writeText, first, later]

/-- A JSON value is written on one line. -/
theorem lineFeed_not_mem_write (json : Json) : '\n' ∉ json.write := by
  induction json with
  | null => decide
  | bool value => cases value <;> decide
  | number value =>
      intro member
      exact absurd (value.wordlike_write '\n' member) (by decide)
  | text value => exact lineFeed_not_mem_writeText value
  | array items ih =>
      cases items with
      | nil => decide
      | cons item rest =>
          rw [List.forall_mem_cons] at ih
          rw [write]
          simp [ih.1, lineFeed_not_mem_writeItems ih.2]
  | object fields ih =>
      cases fields with
      | nil => decide
      | cons field rest =>
          rcases field with ⟨key, value⟩
          have first := ih key value List.mem_cons_self
          have later :=
            lineFeed_not_mem_writeFields fun name other member =>
              ih name other (List.mem_cons_of_mem _ member)
          rw [write]
          simp [lineFeed_not_mem_writeText, first, later]

end Json

/-! ## Lines of a text -/

namespace Text

/-- What stands between the line feeds of a text. -/
def pieces (text : String) : List String :=
  (text.toList.splitOn '\n').map String.ofList

/-- The lines of a text: a line feed at its very end begins no other line. -/
def lines (text : String) : List String :=
  if (pieces text).getLast? = some "" then
    (pieces text).dropLast
  else
    pieces text

theorem pieces_ne_nil (text : String) : pieces text ≠ [] := by
  rw [pieces, ne_eq, List.map_eq_nil_iff]
  exact List.splitOn_ne_nil _ _

theorem pieces_of_not_mem
    {text : String}
    (unbroken : '\n' ∉ text.toList) :
    pieces text = [text] := by
  rw [pieces, List.splitOn_eq_singleton unbroken, List.map_singleton,
    String.ofList_toList]

theorem pieces_append_lineFeed (text rest : String) :
    pieces (text ++ "\n" ++ rest) = pieces text ++ pieces rest := by
  have characters :
      (text ++ "\n" ++ rest).toList = text.toList ++ '\n' :: rest.toList := by
    simp
  rw [pieces, characters, List.splitOn_append_cons_self, List.map_append]
  rfl

/-- Each line feed makes one piece more. -/
theorem length_pieces (text : String) :
    (pieces text).length = text.toList.count '\n' + 1 := by
  rw [pieces, List.length_map]
  induction text.toList with
  | nil => rfl
  | cons first rest ih =>
      rw [List.splitOn_cons_eq_if_modifyHead, List.count_cons]
      split
      · rw [List.length_cons, ih]
      · rw [List.length_modifyHead, ih]

theorem lines_append_lineFeed (text rest : String) :
    lines (text ++ "\n" ++ rest) = pieces text ++ lines rest := by
  rw [lines, lines, pieces_append_lineFeed,
    List.getLast?_append_of_ne_nil _ (pieces_ne_nil rest),
    List.dropLast_append_of_ne_nil (pieces_ne_nil rest)]
  split <;> rfl

theorem lines_join
    {texts : List String}
    (last : String) :
    lines (String.join (texts.map (· ++ "\n")) ++ last) =
      texts.flatMap pieces ++ lines last := by
  induction texts with
  | nil => simp
  | cons text rest ih =>
      rw [List.map_cons, String.join_cons, String.append_assoc,
        lines_append_lineFeed, ih, List.flatMap_cons, List.append_assoc]

theorem length_flatMap_pieces (texts : List String) :
    (texts.flatMap pieces).length =
      texts.length + (texts.flatMap String.toList).count '\n' := by
  induction texts with
  | nil => rfl
  | cons text rest ih =>
      rw [List.flatMap_cons, List.length_append, length_pieces, ih,
        List.length_cons, List.flatMap_cons, List.count_append]
      omega

/-- Texts are their own pieces exactly if none of them has a line feed. -/
theorem flatMap_pieces_eq_self_iff (texts : List String) :
    texts.flatMap pieces = texts ↔ ∀ text ∈ texts, '\n' ∉ text.toList := by
  constructor
  · intro whole text member broken
    have total := length_flatMap_pieces texts
    rw [whole] at total
    have positive : 0 < (texts.flatMap String.toList).count '\n' :=
      List.count_pos_iff.mpr (List.mem_flatMap.mpr ⟨text, member, broken⟩)
    omega
  · intro unbroken
    induction texts with
    | nil => rfl
    | cons text rest ih =>
        rw [List.forall_mem_cons] at unbroken
        rw [List.flatMap_cons, pieces_of_not_mem unbroken.1, ih unbroken.2]
        rfl

end Text

/-! ## Pointers on one line -/

namespace Pointer

theorem lineFeed_mem_escapeChar_iff (character : Char) :
    '\n' ∈ escapeChar character ↔ character = '\n' := by
  unfold escapeChar
  split <;> simp [eq_comm]

/-- Neither style escapes a line feed. -/
theorem lineFeed_mem_segment_iff (style : Style) (key : String) :
    '\n' ∈ (segment style key).toList ↔ '\n' ∈ key.toList := by
  cases style with
  | raw => rfl
  | escaped => simp [segment, lineFeed_mem_escapeChar_iff]

theorem lineFeed_mem_descend_iff
    (style : Style)
    (pointer : String)
    (keys : List String) :
    '\n' ∈ (descend style pointer keys).toList ↔
      '\n' ∈ pointer.toList ∨ ∃ key ∈ keys, '\n' ∈ key.toList := by
  simp [toList_descend, path, lineFeed_mem_segment_iff]

end Pointer

/-! ## Lines of a patch -/

namespace Operation

/-- An operation has no line feeds but those of its pointer. -/
theorem count_lineFeed_line (operation : Operation) :
    operation.line.toList.count '\n' = operation.path.toList.count '\n' := by
  have noMarker : operation.action.marker ≠ '\n' := by
    cases operation.action <;> decide
  have noValue : operation.value.toJson.write.count '\n' = 0 :=
    List.count_eq_zero.mpr operation.value.toJson.lineFeed_not_mem_write
  simp [line, Json.render, noMarker, noValue]

theorem lineFeed_mem_line_iff (operation : Operation) :
    '\n' ∈ operation.line.toList ↔ '\n' ∈ operation.path.toList := by
  rw [← List.count_pos_iff, count_lineFeed_line, List.count_pos_iff]

theorem count_lineFeed_lines (operations : List Operation) :
    ((operations.map line).flatMap String.toList).count '\n' =
      (operations.flatMap fun operation => operation.path.toList).count '\n' := by
  induction operations with
  | nil => rfl
  | cons operation rest ih =>
      rw [List.map_cons, List.flatMap_cons, List.count_append, ih,
        count_lineFeed_line, List.flatMap_cons, List.count_append]

end Operation

namespace Patch

/-- The last line, if there is one. -/
def statusLines (status : Status) : List String :=
  if status.isOk then [] else ["# status: " ++ status.name]

theorem lines_statusLine (status : Status) :
    Text.lines (statusLine status) = statusLines status := by
  cases status <;> decide

theorem lines_renderText (patch : Patch) :
    Text.lines (patch.renderText false) =
      (patch.operations.map Operation.line).flatMap Text.pieces
        ++ statusLines patch.status := by
  have ended :
      patch.operations.map (Operation.renderLine false) =
        (patch.operations.map Operation.line).map (· ++ "\n") := by
    rw [List.map_map]
    rfl
  rw [renderText, ended, Text.lines_join, lines_statusLine]

end Patch

namespace Document

/--
The lines of a patch are those of its operations in their order, and then one
with the status unless that is clean.  A line feed in a pointer makes one line
more of its operation.  So each operation has just one line, its marker, pointer
and value, if and only if no line feed is in the base path or in a key that leads
to a change.
-/
theorem patchTo_lines
    (source target : Document)
    (options : Options) :
    let patch := source.patchTo target options
    let lines := Text.lines (patch.renderText false)
    let last :=
      if patch.status.isOk then [] else ["# status: " ++ patch.status.name]
    lines =
        patch.operations.flatMap (fun operation =>
          Text.pieces operation.line) ++ last
      ∧ lines.length =
          patch.size
            + (patch.operations.flatMap fun operation =>
                operation.path.toList).count '\n'
            + last.length
      ∧ (lines = patch.operations.map Operation.line ++ last ↔
          ∀ change ∈ source.changes target,
            '\n' ∉ options.basePath.toList
              ∧ ∀ key ∈ change.keys, '\n' ∉ key.toList) := by
  intro patch lines last
  have all :
      lines = (patch.operations.map Operation.line).flatMap Text.pieces ++ last :=
    patch.lines_renderText
  refine ⟨?_, ?_, ?_⟩
  · rw [all, List.flatMap_map]
  · rw [all, List.length_append, Text.length_flatMap_pieces, List.length_map,
      Operation.count_lineFeed_lines, Patch.size]
  · rw [all, List.append_left_inj, Text.flatMap_pieces_eq_self_iff,
      List.forall_mem_map, patchTo_operations, List.forall_mem_map]
    simp [Operation.lineFeed_mem_line_iff, Change.locate,
      Pointer.lineFeed_mem_descend_iff]

/-- A line feed in a key breaks the line of the only operation, in both styles. -/
theorem patchTo_lines_brokenKey :
    let before := collection .mapping [("a\nb", ofText "x")]
    let after := collection .mapping [("a\nb", ofText "y")]
    let patch (style : Pointer.Style) :=
      before.patchTo after (Options.default.withPointerStyle style)
    (patch .escaped).size = 1 ∧ (patch .escaped).status = .ok
      ∧ Text.lines ((patch .escaped).renderText false) = ["~ /a", "b \"y\""]
      ∧ (patch .raw).size = 1 ∧ (patch .raw).status = .ok
      ∧ Text.lines ((patch .raw).renderText false) = ["~ /a", "b \"y\""] := by
  intro before after patch
  refine ⟨rfl, rfl, ?_, rfl, rfl, ?_⟩
  · rw [Patch.lines_renderText]
    decide +kernel
  · rw [Patch.lines_renderText]
    decide +kernel

end Document

end LeafPatch
