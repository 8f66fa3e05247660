import LeafPatch.Json.Reader
import LeafPatch.Proofs.Json.Token
import LeafPatch.Proofs.Keyed

/-!
# What is written is read again

The written form of a value is cut into the tokens of the value, and from those
the reader makes the value.  It goes from waiting for a value, whatever is open
around it, to having read just that value, with the same open around it.

Three things can come in between: a double that is read as its neighbour, a key
that is given twice, and more arrays and objects within each other than may be
open at a time.  A value without them is readable.
-/

namespace LeafPatch.Json

/-- The text of the value is read as the value. -/
def ReadsBack (json : Json) : Prop :=
  parse? json.render = some json

/--
Every number of the value is legible and every key is given once, and there is
room for as many arrays and objects within each other as the value has.
-/
inductive Readable : Nat → Json → Prop where
  | null {room : Nat} : Readable room .null
  | bool {room : Nat} (value : Bool) : Readable room (.bool value)
  | number
      {room : Nat}
      {value : Numeral}
      (legible : value.Legible) :
      Readable room (.number value)
  | text {room : Nat} (value : String) : Readable room (.text value)
  | array
      {room : Nat}
      {items : List Json}
      (readable : ∀ item ∈ items, Readable room item) :
      Readable (room + 1) (.array items)
  | object
      {room : Nat}
      {fields : List (String × Json)}
      (distinct : (Keyed.keys fields).Nodup)
      (readable : ∀ key value, (key, value) ∈ fields → Readable room value) :
      Readable (room + 1) (.object fields)

/-- More room is never too little. -/
theorem Readable.mono
    {room wide : Nat}
    {json : Json}
    (readable : Readable room json)
    (le : room ≤ wide) :
    Readable wide json := by
  induction readable generalizing wide with
  | null => exact .null
  | bool value => exact .bool value
  | number legible => exact .number legible
  | text value => exact .text value
  | @array room items readable ih =>
      rcases Nat.exists_eq_add_of_le' le with ⟨more, rfl⟩
      exact .array fun item member => ih item member (Nat.le_add_left room more)
  | @object room fields distinct readable ih =>
      rcases Nat.exists_eq_add_of_le' le with ⟨more, rfl⟩
      exact
        .object distinct fun key value member =>
          ih key value member (Nat.le_add_left room more)

mutual

/-- The tokens of a value. -/
def tokens : Json → List Token
  | null => [.null]
  | bool value => [.bool value]
  | number value => [.number value]
  | text value => [.text value]
  | array [] => [.openArray, .closeArray]
  | array (item :: rest) => .openArray :: tokens item ++ tokensOfItems rest
  | object [] => [.openObject, .closeObject]
  | object ((key, value) :: rest) =>
      .openObject :: .text key :: .colon :: tokens value ++ tokensOfFields rest

/-- The tokens of the items after the first, and of the end of their array. -/
def tokensOfItems : List Json → List Token
  | [] => [.closeArray]
  | item :: rest => .comma :: tokens item ++ tokensOfItems rest

/-- The tokens of the fields after the first, and of the end of their object. -/
def tokensOfFields : List (String × Json) → List Token
  | [] => [.closeObject]
  | (key, value) :: rest =>
      .comma :: .text key :: .colon :: tokens value ++ tokensOfFields rest

end

/-! ## From characters to tokens -/

/-- The value is cut off from whatever ends a word. -/
def Cuts (json : Json) : Prop :=
  ∀ rest, Token.EndsWord rest →
    Token.cutFrom? .between (json.write ++ rest) =
      (Token.cutFrom? .between rest).map (json.tokens ++ ·)

theorem endsWord_writeItems
    (items : List Json)
    (rest : List Char) :
    Token.EndsWord (writeItems items ++ rest) := by
  cases items with
  | nil => exact Token.endsWord_cons_iff.mpr rfl
  | cons item later => exact Token.endsWord_cons_iff.mpr rfl

theorem endsWord_writeFields
    (fields : List (String × Json))
    (rest : List Char) :
    Token.EndsWord (writeFields fields ++ rest) := by
  cases fields with
  | nil => exact Token.endsWord_cons_iff.mpr rfl
  | cons field later => exact Token.endsWord_cons_iff.mpr rfl

theorem cutFrom?_writeItems
    {items : List Json}
    (cuts : ∀ item ∈ items, item.Cuts)
    (rest : List Char) :
    Token.cutFrom? .between (writeItems items ++ rest) =
      (Token.cutFrom? .between rest).map (tokensOfItems items ++ ·) := by
  induction items with
  | nil => exact Token.cutFrom?_punctuation rfl rest
  | cons item later ih =>
      rw [List.forall_mem_cons] at cuts
      rw [writeItems, List.cons_append, List.cons_append, List.append_assoc,
        Token.cutFrom?_punctuation rfl,
        cuts.1 _ (endsWord_writeItems later rest), ih cuts.2, Option.map_map,
        Option.map_map]
      simp only [Function.comp_def, tokensOfItems, List.cons_append,
        List.append_assoc]

/-- A field is cut off if its value is. -/
theorem cutFrom?_field
    {value : Json}
    (cuts : value.Cuts)
    (key : String)
    {rest : List Char}
    (boundary : Token.EndsWord rest) :
    Token.cutFrom? .between (writeText key ++ ':' :: (value.write ++ rest)) =
      (Token.cutFrom? .between rest).map
        (.text key :: .colon :: value.tokens ++ ·) := by
  rw [Token.cutFrom?_writeText, Token.cutFrom?_punctuation rfl, cuts rest boundary,
    Option.map_map, Option.map_map]
  rfl

theorem cutFrom?_writeFields
    {fields : List (String × Json)}
    (cuts : ∀ key value, (key, value) ∈ fields → value.Cuts)
    (rest : List Char) :
    Token.cutFrom? .between (writeFields fields ++ rest) =
      (Token.cutFrom? .between rest).map (tokensOfFields fields ++ ·) := by
  induction fields with
  | nil => exact Token.cutFrom?_punctuation rfl rest
  | cons field later ih =>
      rcases field with ⟨key, value⟩
      have cutsLater :=
        ih fun name other member =>
          cuts name other (List.mem_cons_of_mem _ member)
      simp only [writeFields, List.cons_append, List.append_assoc]
      rw [Token.cutFrom?_punctuation rfl,
        cutFrom?_field (cuts key value List.mem_cons_self) key
          (endsWord_writeFields later rest),
        cutsLater, Option.map_map, Option.map_map]
      simp only [Function.comp_def, tokensOfFields, List.cons_append,
        List.append_assoc]

theorem Readable.cuts
    {room : Nat}
    {json : Json}
    (readable : Readable room json) :
    json.Cuts := by
  induction readable with
  | null =>
      intro rest boundary
      exact Token.cutFrom?_word rfl (by decide) (by decide) boundary
  | bool value =>
      intro rest boundary
      cases value with
      | true => exact Token.cutFrom?_word rfl (by decide) (by decide) boundary
      | false => exact Token.cutFrom?_word rfl (by decide) (by decide) boundary
  | number legible =>
      intro rest boundary
      exact Token.cutFrom?_number legible boundary
  | text value =>
      intro rest boundary
      exact Token.cutFrom?_writeText value rest
  | @array room items readable ih =>
      intro rest boundary
      cases items with
      | nil =>
          simp only [write, List.cons_append, List.nil_append]
          rw [Token.cutFrom?_punctuation rfl, Token.cutFrom?_punctuation rfl,
            Option.map_map]
          rfl
      | cons item later =>
          rw [List.forall_mem_cons] at ih
          simp only [write, List.cons_append, List.append_assoc]
          rw [Token.cutFrom?_punctuation rfl,
            ih.1 _ (endsWord_writeItems later rest),
            cutFrom?_writeItems ih.2, Option.map_map, Option.map_map]
          simp only [Function.comp_def, tokens, List.cons_append,
            List.append_assoc]
  | @object room fields distinct readable ih =>
      intro rest boundary
      cases fields with
      | nil =>
          simp only [write, List.cons_append, List.nil_append]
          rw [Token.cutFrom?_punctuation rfl, Token.cutFrom?_punctuation rfl,
            Option.map_map]
          rfl
      | cons field later =>
          rcases field with ⟨key, value⟩
          have cutsLater :=
            cutFrom?_writeFields fun name other member =>
              ih name other (List.mem_cons_of_mem _ member)
          simp only [write, List.cons_append, List.append_assoc]
          rw [Token.cutFrom?_punctuation rfl,
            cutFrom?_field (ih key value List.mem_cons_self) key
              (endsWord_writeFields later rest),
            cutsLater, Option.map_map, Option.map_map]
          simp only [Function.comp_def, tokens, List.cons_append,
            List.append_assoc]

/-! ## From tokens to values -/

/-- Among whatever is open, the tokens of a value are read as the value. -/
def Builds (room : Nat) (json : Json) : Prop :=
  ∀ stack rest, stack.length + room ≤ depthLimit →
    (json.tokens ++ rest).foldlM Progress.step? ⟨stack, .value⟩ =
      rest.foldlM Progress.step? ⟨stack, .after json⟩

/-- A token that does not end an array may be the first of an item. -/
theorem step?_firstItem
    {token : Token}
    (noEnd : token ≠ .closeArray)
    (stack : List Frame) :
    Progress.step? ⟨stack, .firstItem⟩ token =
      Progress.step? ⟨stack, .value⟩ token := by
  rcases stack with - | ⟨⟨read⟩ | ⟨read, key⟩, stack⟩
  · rfl
  · cases token <;> first | rfl | exact absurd rfl noEnd
  · rfl

theorem exists_tokens_eq_cons (json : Json) :
    ∃ first later, json.tokens = first :: later ∧ first ≠ .closeArray := by
  rcases json with - | value | value | value | ⟨- | ⟨item, rest⟩⟩ |
    ⟨- | ⟨⟨key, value⟩, rest⟩⟩
  all_goals exact ⟨_, _, rfl, nofun⟩

theorem Builds.firstItem
    {room : Nat}
    {json : Json}
    (builds : json.Builds room)
    {stack : List Frame}
    (space : stack.length + room ≤ depthLimit)
    (rest : List Token) :
    (json.tokens ++ rest).foldlM Progress.step? ⟨stack, .firstItem⟩ =
      rest.foldlM Progress.step? ⟨stack, .after json⟩ := by
  rw [← builds stack rest space]
  rcases exists_tokens_eq_cons json with ⟨first, later, isTokens, noEnd⟩
  rw [isTokens, List.cons_append, List.foldlM_cons, List.foldlM_cons,
    step?_firstItem noEnd]

/-- The items that follow one come after those that have been read. -/
theorem foldlM_tokensOfItems
    {room : Nat}
    {items : List Json}
    (builds : ∀ item ∈ items, item.Builds room)
    {stack : List Frame}
    (space : stack.length + (room + 1) ≤ depthLimit)
    (read : List Json)
    (value : Json)
    (rest : List Token) :
    (tokensOfItems items ++ rest).foldlM Progress.step?
        ⟨.items read :: stack, .after value⟩ =
      rest.foldlM Progress.step?
        ⟨stack, .after (.array ((value :: read).reverse ++ items))⟩ := by
  induction items generalizing read value with
  | nil =>
      rw [List.append_nil]
      rfl
  | cons item later ih =>
      rw [List.forall_mem_cons] at builds
      rw [tokensOfItems, List.cons_append, List.cons_append, List.append_assoc,
        List.foldlM_cons]
      show
        ((item.tokens ++ (tokensOfItems later ++ rest)).foldlM Progress.step?
          ⟨.items (value :: read) :: stack, .value⟩) = _
      rw [builds.1 _ _ (by rw [List.length_cons]; omega), ih builds.2,
        List.reverse_cons, List.append_assoc]
      rfl

theorem foldlM_field
    {room : Nat}
    {value : Json}
    (builds : value.Builds room)
    {stack : List Frame}
    (space : stack.length + (room + 1) ≤ depthLimit)
    (read : List (String × Json))
    (key : String)
    (rest : List Token) :
    (.colon :: value.tokens ++ rest).foldlM Progress.step?
        ⟨stack, .colon read key⟩ =
      rest.foldlM Progress.step?
        ⟨.fields read key :: stack, .after value⟩ := by
  rw [List.cons_append, List.foldlM_cons]
  apply builds (.fields read key :: stack) rest
  rw [List.length_cons]
  omega

/-- The fields that follow one come after those that have been read. -/
theorem foldlM_tokensOfFields
    {room : Nat}
    {fields : List (String × Json)}
    (builds : ∀ key value, (key, value) ∈ fields → value.Builds room)
    {stack : List Frame}
    (space : stack.length + (room + 1) ≤ depthLimit)
    {read : List (String × Json)}
    {key : String}
    {value : Json}
    (distinct : (Keyed.keys (read ++ (key, value) :: fields)).Nodup)
    (rest : List Token) :
    (tokensOfFields fields ++ rest).foldlM Progress.step?
        ⟨.fields read key :: stack, .after value⟩ =
      rest.foldlM Progress.step?
        ⟨stack, .after (.object (read ++ (key, value) :: fields))⟩ := by
  -- The reader inserts each field; a key that is new goes to the end.
  induction fields generalizing read key value with
  | nil =>
      rw [← Keyed.insert_of_nodup distinct]
      rfl
  | cons field later ih =>
      rcases field with ⟨next, other⟩
      have isField :=
        foldlM_field (builds next other List.mem_cons_self) space
          (read ++ [(key, value)]) next (tokensOfFields later ++ rest)
      have buildsLater (name : String) (last : Json)
          (member : (name, last) ∈ later) : last.Builds room :=
        builds name last (List.mem_cons_of_mem _ member)
      rw [tokensOfFields, List.cons_append, List.cons_append, List.append_assoc,
        List.foldlM_cons]
      show
        ((.text next :: (.colon :: other.tokens
          ++ (tokensOfFields later ++ rest))).foldlM Progress.step?
            ⟨stack, .key (Keyed.insert key value read)⟩) = _
      have regrouped := List.append_cons read (key, value) ((next, other) :: later)
      rw [Keyed.insert_of_nodup distinct, List.foldlM_cons, regrouped]
      rw [regrouped] at distinct
      exact isField.trans (ih buildsLater distinct)

theorem Readable.builds
    {room : Nat}
    {json : Json}
    (readable : Readable room json) :
    json.Builds room := by
  induction readable with
  | null => exact fun stack rest space => rfl
  | bool value => exact fun stack rest space => rfl
  | number legible => exact fun stack rest space => rfl
  | text value => exact fun stack rest space => rfl
  | @array room items readable ih =>
      intro stack rest space
      have fits : stack.length < depthLimit := by omega
      have opens :
          Progress.step? ⟨stack, .value⟩ .openArray =
            some ⟨.items [] :: stack, .firstItem⟩ :=
        if_pos fits
      cases items with
      | nil =>
          rw [tokens, List.cons_append, List.foldlM_cons, opens]
          rfl
      | cons item later =>
          rw [List.forall_mem_cons] at ih
          rw [tokens, List.cons_append, List.cons_append, List.append_assoc,
            List.foldlM_cons, opens]
          show
            ((item.tokens ++ (tokensOfItems later ++ rest)).foldlM Progress.step?
              ⟨.items [] :: stack, .firstItem⟩) = _
          rw [ih.1.firstItem (by rw [List.length_cons]; omega),
            foldlM_tokensOfItems ih.2 space]
          rfl
  | @object room fields distinct readable ih =>
      intro stack rest space
      have fits : stack.length < depthLimit := by omega
      have opens :
          Progress.step? ⟨stack, .value⟩ .openObject =
            some ⟨.fields [] "" :: stack, .firstKey⟩ :=
        if_pos fits
      cases fields with
      | nil =>
          rw [tokens, List.cons_append, List.foldlM_cons, opens]
          rfl
      | cons field later =>
          rcases field with ⟨key, value⟩
          have buildsLater (name : String) (other : Json)
              (member : (name, other) ∈ later) : other.Builds room :=
            ih name other (List.mem_cons_of_mem _ member)
          have isField :=
            foldlM_field (ih key value List.mem_cons_self) space [] key
              (tokensOfFields later ++ rest)
          rw [tokens, List.cons_append, List.cons_append, List.append_assoc,
            List.foldlM_cons, opens]
          show
            ((.text key :: (.colon :: value.tokens
              ++ (tokensOfFields later ++ rest))).foldlM Progress.step?
                ⟨.fields [] "" :: stack, .firstKey⟩) = _
          rw [List.foldlM_cons]
          exact
            isField.trans
              (foldlM_tokensOfFields buildsLater space distinct rest)

/-- A readable value is read as it was written. -/
theorem Readable.readsBack
    {json : Json}
    (readable : Readable depthLimit json) :
    json.ReadsBack := by
  have cut : Token.cut? json.write = some json.tokens := by
    have cuts := readable.cuts [] Token.endsWord_nil
    rw [List.append_nil] at cuts
    rw [Token.cut?, cuts]
    exact congrArg some (List.append_nil _)
  have built : ofTokens? json.tokens = some json := by
    have builds := readable.builds [] [] (Nat.le_of_eq (Nat.zero_add _))
    rw [List.append_nil] at builds
    rw [ofTokens?, Progress.initial, builds]
    rfl
  rw [ReadsBack, parse?, render, String.toList_ofList, ofChars?, cut]
  exact built

end LeafPatch.Json
