import LeafPatch.Keyed

/-!
# Looking keys up

Which entries a look-up finds.  As long as no key is given twice, looking a key
up finds exactly the value that stands beside it, so that a list of entries and
the mapping that it is read as say the same.
-/

namespace LeafPatch.Keyed

variable {Value : Type}

/-- What is found stands beside its key. -/
theorem mem_of_find?_eq_some
    {key : String}
    {value : Value}
    {entries : List (String × Value)}
    (found : find? key entries = some value) :
    (key, value) ∈ entries := by
  induction entries with
  | nil => simp at found
  | cons entry rest ih =>
      rcases entry with ⟨name, first⟩
      by_cases same : name = key
      · subst same
        rw [find?_cons_self] at found
        cases found
        exact List.mem_cons_self
      · rw [find?_cons_of_ne first rest same] at found
        exact List.mem_cons_of_mem _ (ih found)

theorem find?_eq_none_iff
    {key : String}
    {entries : List (String × Value)} :
    find? key entries = none ↔ key ∉ keys entries := by
  induction entries with
  | nil => simp [keys]
  | cons entry rest ih =>
      rcases entry with ⟨name, first⟩
      by_cases same : name = key
      · simp [same, keys]
      · rw [find?_cons_of_ne first rest same, ih]
        simp [keys, Ne.symm same]

theorem isSome_find?_iff
    {key : String}
    {entries : List (String × Value)} :
    (find? key entries).isSome ↔ key ∈ keys entries := by
  rw [← Option.ne_none_iff_isSome, ne_eq, find?_eq_none_iff, Classical.not_not]

@[simp]
theorem contains_iff
    {key : String}
    {entries : List (String × Value)} :
    contains key entries = true ↔ key ∈ keys entries :=
  isSome_find?_iff

theorem mem_keys_of_mem
    {key : String}
    {value : Value}
    {entries : List (String × Value)}
    (member : (key, value) ∈ entries) :
    key ∈ keys entries :=
  List.mem_map.mpr ⟨(key, value), member, rfl⟩

/-- Where no key is given twice, an entry is found under its key. -/
theorem find?_eq_some_iff
    {key : String}
    {value : Value}
    {entries : List (String × Value)}
    (distinct : (keys entries).Nodup) :
    find? key entries = some value ↔ (key, value) ∈ entries := by
  constructor
  · exact mem_of_find?_eq_some
  · intro member
    induction entries with
    | nil => cases member
    | cons entry rest ih =>
        rcases entry with ⟨name, first⟩
        rcases List.nodup_cons.mp distinct with ⟨fresh, laterDistinct⟩
        rcases List.mem_cons.mp member with equal | later
        · cases equal
          exact find?_cons_self key value rest
        · have different : name ≠ key := by
            rintro rfl
            exact fresh (mem_keys_of_mem later)
          rw [find?_cons_of_ne first rest different]
          exact ih laterDistinct later

/-! ## Entries in the middle -/

@[simp]
theorem keys_append (entries others : List (String × Value)) :
    keys (entries ++ others) = keys entries ++ keys others :=
  List.map_append

@[simp]
theorem keys_cons
    (key : String)
    (value : Value)
    (rest : List (String × Value)) :
    keys ((key, value) :: rest) = key :: keys rest :=
  rfl

@[simp]
theorem keys_nil : keys ([] : List (String × Value)) = [] :=
  rfl

@[simp]
theorem length_keys (entries : List (String × Value)) :
    (keys entries).length = entries.length :=
  List.length_map _

/-- Keys that are given later do not matter for one that is given before. -/
theorem find?_append
    (key : String)
    (entries others : List (String × Value)) :
    find? key (entries ++ others) =
      (find? key entries).or (find? key others) := by
  induction entries with
  | nil => rfl
  | cons entry rest ih =>
      rcases entry with ⟨name, first⟩
      by_cases same : name = key
      · subst same
        simp
      · rw [List.cons_append, find?_cons_of_ne first _ same,
          find?_cons_of_ne first _ same, ih]

/-- What is found is changed when each value is. -/
theorem find?_map
    {Other : Type}
    (change : Value → Other)
    (key : String)
    (entries : List (String × Value)) :
    find? key (entries.map fun entry => (entry.1, change entry.2)) =
      (find? key entries).map change := by
  induction entries with
  | nil => rfl
  | cons entry rest ih =>
      rcases entry with ⟨name, value⟩
      rw [List.map_cons, find?, find?, ih]
      split <;> rfl

theorem contains_map
    {Other : Type}
    (change : Value → Other)
    (key : String)
    (entries : List (String × Value)) :
    contains key (entries.map fun entry => (entry.1, change entry.2)) =
      contains key entries := by
  rw [contains, find?_map, Option.isSome_map, contains]

theorem insert_of_not_mem
    {key : String}
    (value : Value)
    {entries : List (String × Value)}
    (absent : key ∉ keys entries) :
    insert key value entries = entries ++ [(key, value)] := by
  induction entries with
  | nil => rfl
  | cons entry rest ih =>
      rcases entry with ⟨name, first⟩
      rw [keys_cons, List.mem_cons, not_or] at absent
      rw [insert, if_neg (Ne.symm absent.1), ih absent.2, List.cons_append]

/-- Entries with distinct keys can be given one after the other. -/
theorem insert_of_nodup
    {key : String}
    {value : Value}
    {entries later : List (String × Value)}
    (distinct : (keys (entries ++ (key, value) :: later)).Nodup) :
    insert key value entries = entries ++ [(key, value)] := by
  apply insert_of_not_mem
  intro member
  rw [keys_append, keys_cons, List.nodup_append] at distinct
  exact distinct.2.2 key member key List.mem_cons_self rfl

/-- After a key has been given, each entry is the one given or was there before. -/
theorem mem_insert
    {key name : String}
    {given value : Value}
    {entries : List (String × Value)}
    (member : (name, value) ∈ insert key given entries) :
    (name = key ∧ value = given) ∨ (name, value) ∈ entries := by
  induction entries with
  | nil =>
      cases List.mem_singleton.mp member
      exact Or.inl ⟨rfl, rfl⟩
  | cons entry rest ih =>
      rcases entry with ⟨first, old⟩
      rw [insert] at member
      split at member
      · next same =>
          rcases List.mem_cons.mp member with equal | later
          · cases equal
            exact Or.inl ⟨same, rfl⟩
          · exact Or.inr (List.mem_cons_of_mem _ later)
      · rcases List.mem_cons.mp member with equal | later
        · exact Or.inr (equal ▸ List.mem_cons_self)
        · exact (ih later).imp_right (List.mem_cons_of_mem _)

/-- Giving a key again replaces its value where it stands. -/
theorem insert_append_cons_self
    {key : String}
    (old value : Value)
    {before : List (String × Value)}
    (fresh : key ∉ keys before)
    (after : List (String × Value)) :
    insert key value (before ++ (key, old) :: after) =
      before ++ (key, value) :: after := by
  induction before with
  | nil => exact if_pos rfl
  | cons entry rest ih =>
      rcases entry with ⟨name, first⟩
      rw [keys_cons, List.mem_cons, not_or] at fresh
      rw [List.cons_append, insert, if_neg (Ne.symm fresh.1), ih fresh.2,
        List.cons_append]

theorem keys_insert
    (key : String)
    (value : Value)
    (entries : List (String × Value)) :
    keys (insert key value entries) =
      if key ∈ keys entries then keys entries else keys entries ++ [key] := by
  split
  · next member => exact keys_insert_of_mem value member
  · next absent => exact keys_insert_of_not_mem value absent

/-- Of two values for one key the later one counts. -/
theorem insert_insert_self
    (key : String)
    (old value : Value)
    (entries : List (String × Value)) :
    insert key value (insert key old entries) = insert key value entries := by
  induction entries with
  | nil => simp [insert]
  | cons entry rest ih =>
      rcases entry with ⟨name, first⟩
      by_cases same : name = key
      · simp [insert, same]
      · simp [insert, same, ih]

/-- A key that has its place is given its value before or after another key. -/
theorem insert_comm
    {key other : String}
    (different : key ≠ other)
    (value given : Value)
    {entries : List (String × Value)}
    (present : key ∈ keys entries) :
    insert key value (insert other given entries) =
      insert other given (insert key value entries) := by
  induction entries with
  | nil => cases present
  | cons entry rest ih =>
      rcases entry with ⟨name, first⟩
      by_cases isKey : name = key
      · simp [insert, isKey, different]
      · by_cases isOther : name = other
        · simp [insert, isOther, Ne.symm different]
        · have later : key ∈ keys rest :=
            List.mem_of_ne_of_mem (Ne.symm isKey) present
          simp [insert, isKey, isOther, ih later]

/-- Whoever has another key stays where it is. -/
theorem getElem?_insert_of_ne
    {key name : String}
    (different : name ≠ key)
    (given : Value)
    {value : Value}
    {entries : List (String × Value)}
    {index : Nat}
    (place : entries[index]? = some (name, value)) :
    (insert key given entries)[index]? = some (name, value) := by
  induction entries generalizing index with
  | nil => cases place
  | cons entry rest ih =>
      rcases entry with ⟨first, old⟩
      cases index with
      | zero =>
          cases place
          rw [insert, if_neg different]
          rfl
      | succ index =>
          rw [insert]
          split
          · exact place
          · exact ih place

/-- Pairs with distinct keys are a mapping already. -/
theorem ofPairs_of_nodup
    {pairs : List (String × Value)}
    (distinct : (keys pairs).Nodup) :
    ofPairs pairs = pairs := by
  suffices ∀ entries : List (String × Value),
      (keys (entries ++ pairs)).Nodup →
        pairs.foldl (fun entries pair => insert pair.1 pair.2 entries) entries =
          entries ++ pairs by
    exact this [] distinct
  clear distinct
  intro entries distinct
  induction pairs generalizing entries with
  | nil => exact (List.append_nil entries).symm
  | cons pair rest ih =>
      rcases pair with ⟨key, value⟩
      have regrouped :
          entries ++ [(key, value)] ++ rest = entries ++ (key, value) :: rest :=
        List.append_cons entries (key, value) rest |>.symm
      rw [List.foldl_cons, insert_of_nodup distinct, ih, regrouped]
      rw [regrouped]
      exact distinct

/-- Values under distinct names, as far as there are values and names. -/
theorem nodup_keys_zip
    {names : List String}
    (distinct : names.Nodup)
    (values : List Value) :
    (keys (names.zip values)).Nodup := by
  rw [List.zip_eq_zip_take_min, keys, List.map_fst_zip (by simp)]
  exact (List.take_sublist _ _).nodup distinct

/-! ## Items under their indices -/

theorem toString_injective : Function.Injective (toString : Nat → String) := by
  intro left right equal
  have digits := congrArg (fun text => Nat.ofDigitChars 10 text.toList 0) equal
  simpa only [Nat.toString_eq_repr, Nat.toList_repr,
    Nat.ofDigitChars_ten_toDigits] using digits

theorem keys_indexed (start : Nat) (items : List Value) :
    keys (indexed start items) =
      (List.range' start items.length).map toString := by
  induction items generalizing start with
  | nil => rfl
  | cons item rest ih =>
      rw [indexed, keys_cons, ih, List.length_cons, List.range'_succ,
        List.map_cons]

@[simp]
theorem length_indexed (start : Nat) (items : List Value) :
    (indexed start items).length = items.length := by
  rw [← length_keys, keys_indexed, List.length_map, List.length_range']

theorem nodup_keys_indexed (start : Nat) (items : List Value) :
    (keys (indexed start items)).Nodup := by
  rw [keys_indexed]
  exact
    List.Pairwise.map toString
      (fun left right different equal =>
        different (toString_injective equal))
      List.nodup_range'

theorem mem_of_mem_indexed
    {start : Nat}
    {items : List Value}
    {key : String}
    {value : Value}
    (member : (key, value) ∈ indexed start items) :
    value ∈ items := by
  induction items generalizing start with
  | nil => cases member
  | cons item rest ih =>
      rcases List.mem_cons.mp member with equal | later
      · cases equal
        exact List.mem_cons_self
      · exact List.mem_cons_of_mem _ (ih later)

/-- Under its index each item is found, and nothing where there is no item. -/
theorem find?_indexed
    (start index : Nat)
    (items : List Value) :
    find? (toString (start + index)) (indexed start items) = items[index]? := by
  induction items generalizing start index with
  | nil => rfl
  | cons item rest ih =>
      rw [indexed]
      cases index with
      | zero => exact find?_cons_self _ item _
      | succ index =>
          have other : toString start ≠ toString (start + (index + 1)) := by
            intro equal
            have same := toString_injective equal
            omega
          rw [find?_cons_of_ne item _ other, List.getElem?_cons_succ, ← ih]
          congr 2
          omega

theorem map_indexed
    {Other : Type}
    (change : Value → Other)
    (start : Nat)
    (items : List Value) :
    (indexed start items).map (fun entry => (entry.1, change entry.2)) =
      indexed start (items.map change) := by
  induction items generalizing start with
  | nil => rfl
  | cons item rest ih =>
      rw [indexed, List.map_cons, ih]
      rfl

theorem values_indexed (start : Nat) (items : List Value) :
    (indexed start items).map Prod.snd = items := by
  induction items generalizing start with
  | nil => rfl
  | cons item rest ih => rw [indexed, List.map_cons, ih]

end LeafPatch.Keyed
