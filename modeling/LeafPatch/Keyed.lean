/-!
# Ordered entries

A list of key-value pairs read as a mapping that remembers the order in which
its keys were first given.  Looking a key up finds its first entry; giving a key
again replaces its value and keeps its place.
-/

namespace LeafPatch.Keyed

variable {Value : Type}

/-- The value under a key. -/
def find? (key : String) : List (String × Value) → Option Value
  | [] => none
  | (name, value) :: rest =>
      if name = key then some value else find? key rest

/-- Whether the key has an entry. -/
def contains (key : String) (entries : List (String × Value)) : Bool :=
  (find? key entries).isSome

/-- The keys, in order. -/
def keys (entries : List (String × Value)) : List String :=
  entries.map Prod.fst

/-- Gives a key a value: in its place if it has one, at the end otherwise. -/
def insert (key : String) (value : Value) :
    List (String × Value) → List (String × Value)
  | [] => [(key, value)]
  | (name, old) :: rest =>
      if name = key then
        (name, value) :: rest
      else
        (name, old) :: insert key value rest

/-- The mapping built by giving the pairs one after the other. -/
def ofPairs (pairs : List (String × Value)) : List (String × Value) :=
  pairs.foldl (fun entries pair => insert pair.1 pair.2 entries) []

/-- Items under the keys `"0"`, `"1"` and so on, counting from `start`. -/
def indexed (start : Nat) : List Value → List (String × Value)
  | [] => []
  | item :: rest => (toString start, item) :: indexed (start + 1) rest

@[simp]
theorem find?_nil (key : String) :
    find? key ([] : List (String × Value)) = none :=
  rfl

@[simp]
theorem find?_cons_self
    (key : String)
    (value : Value)
    (rest : List (String × Value)) :
    find? key ((key, value) :: rest) = some value := by
  simp [find?]

theorem find?_cons_of_ne
    {key name : String}
    (value : Value)
    (rest : List (String × Value))
    (distinct : name ≠ key) :
    find? key ((name, value) :: rest) = find? key rest := by
  simp [find?, distinct]

theorem find?_insert
    (key name : String)
    (value : Value)
    (entries : List (String × Value)) :
    find? key (insert name value entries) =
      if name = key then some value else find? key entries := by
  induction entries with
  | nil => simp [insert, find?]
  | cons entry rest ih =>
      obtain ⟨first, old⟩ := entry
      by_cases same : first = name
      · subst same
        by_cases found : first = key <;> simp [insert, find?, found]
      · by_cases found : first = key
        · subst found
          simp [insert, find?, same, Ne.symm same]
        · simp [insert, find?, same, found, ih]

theorem keys_insert_of_mem
    {key : String}
    (value : Value)
    {entries : List (String × Value)}
    (member : key ∈ keys entries) :
    keys (insert key value entries) = keys entries := by
  induction entries with
  | nil => simp [keys] at member
  | cons entry rest ih =>
      obtain ⟨first, old⟩ := entry
      by_cases same : first = key
      · simp [insert, keys, same]
      · have later : key ∈ keys rest := by
          simpa [keys, Ne.symm same] using member
        have kept := ih later
        simp only [keys] at kept
        simp [insert, keys, same, kept]

theorem keys_insert_of_not_mem
    {key : String}
    (value : Value)
    {entries : List (String × Value)}
    (absent : key ∉ keys entries) :
    keys (insert key value entries) = keys entries ++ [key] := by
  induction entries with
  | nil => simp [keys, insert]
  | cons entry rest ih =>
      obtain ⟨first, old⟩ := entry
      have different : first ≠ key := by
        intro same
        simp [keys, same] at absent
      have later : key ∉ keys rest := by
        intro member
        exact absent (by simpa [keys] using Or.inr (by simpa [keys] using member))
      have extended := ih later
      simp only [keys] at extended
      simp [insert, keys, different, extended]

/-- Giving a value never makes a key appear twice. -/
theorem nodup_keys_insert
    (key : String)
    (value : Value)
    {entries : List (String × Value)}
    (distinct : (keys entries).Nodup) :
    (keys (insert key value entries)).Nodup := by
  by_cases member : key ∈ keys entries
  · rw [keys_insert_of_mem value member]
    exact distinct
  · rw [keys_insert_of_not_mem value member]
    apply List.nodup_append.mpr
    refine ⟨distinct, by simp, ?_⟩
    intro name found other appended same
    rw [List.mem_singleton] at appended
    exact member (by rw [← appended, ← same]; exact found)

end LeafPatch.Keyed
