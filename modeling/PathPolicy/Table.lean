/-!
# Tables in order of insertion

A table is a list of keys with their values in which no key occurs twice.
Putting a value under a key that is already there keeps the place of the key.
-/

namespace PathPolicy

/-- Keys with their values, in the order in which the keys were first put. -/
abbrev Table (κ α : Type) := List (κ × α)

namespace Table

variable {κ α : Type}

/-- Puts a value under a key: in the place of the key, or at the end. -/
def put [BEq κ] (key : κ) (value : α) : Table κ α → Table κ α
  | [] => [(key, value)]
  | (present, old) :: rest =>
      if present == key then (present, value) :: rest else (present, old) :: put key value rest

/-- The value under a key. -/
def get? [BEq κ] (key : κ) : Table κ α → Option α
  | [] => none
  | (present, value) :: rest => if present == key then some value else get? key rest

/-- The keys in their order. -/
def keys (table : Table κ α) : List κ :=
  table.map Prod.fst

/-- The table that results when the pairs are put one after the other. -/
def ofPairs [BEq κ] (pairs : List (κ × α)) : Table κ α :=
  pairs.foldl (fun table pair => table.put pair.1 pair.2) []

/-- The table without a key. -/
def remove [BEq κ] (key : κ) (table : Table κ α) : Table κ α :=
  table.filter fun pair => !(pair.1 == key)

@[simp]
theorem get?_nil [BEq κ] (key : κ) : get? key ([] : Table κ α) = none :=
  rfl

/-- What has been put is found again. -/
@[simp]
theorem get?_put_self [BEq κ] [LawfulBEq κ] (key : κ) (value : α) (table : Table κ α) :
    (table.put key value).get? key = some value := by
  induction table with
  | nil => simp [put, get?]
  | cons pair rest inductionHypothesis =>
      by_cases same : pair.1 == key
      · simp [put, get?, same]
      · simpa [put, get?, same] using inductionHypothesis

/-- Putting under one key leaves the value under another. -/
theorem get?_put_of_ne [BEq κ] [LawfulBEq κ] {key other : κ} (different : other ≠ key) (value : α)
    (table : Table κ α) : (table.put key value).get? other = table.get? other := by
  induction table with
  | nil => simp [put, get?, different.symm]
  | cons pair rest inductionHypothesis =>
      obtain ⟨present, old⟩ := pair
      by_cases same : present = key
      · subst same
        simp [put, get?, different.symm]
      · simp only [put, beq_iff_eq, same, if_false, get?]
        rw [inductionHypothesis]

/-- A new key goes to the end of the keys, a key that is present changes nothing. -/
theorem keys_put [BEq κ] [LawfulBEq κ] (key : κ) (value : α) (table : Table κ α) :
    (table.put key value).keys =
      if key ∈ table.keys then table.keys else table.keys ++ [key] := by
  induction table with
  | nil => simp [put, keys]
  | cons pair rest inductionHypothesis =>
      obtain ⟨present, old⟩ := pair
      by_cases same : present = key
      · subst same
        simp [put, keys]
      · simp only [keys] at inductionHypothesis
        simp only [put, beq_iff_eq, same, if_false, keys, List.map_cons, inductionHypothesis,
          List.mem_cons, Ne.symm same, false_or]
        by_cases member : key ∈ rest.map Prod.fst <;> simp [member]

/-- The keys of a table stay distinct. -/
theorem nodup_keys_put [BEq κ] [LawfulBEq κ] {table : Table κ α} (distinct : table.keys.Nodup)
    (key : κ) (value : α) : (table.put key value).keys.Nodup := by
  rw [keys_put]
  split
  · exact distinct
  · rename_i absent
    exact List.nodup_append.2 ⟨distinct, by simp, by
      intro present member new isNew
      simp only [List.mem_singleton] at isNew
      subst isNew
      exact fun same => absent (same ▸ member)⟩

/-- What is found under a key is in the table. -/
theorem mem_of_get?_eq_some [BEq κ] [LawfulBEq κ] {key : κ} {value : α} {table : Table κ α}
    (found : table.get? key = some value) : (key, value) ∈ table := by
  induction table with
  | nil => cases found
  | cons pair rest inductionHypothesis =>
      obtain ⟨present, old⟩ := pair
      rw [get?] at found
      split at found
      · rename_i same
        cases found
        simp [eq_of_beq same]
      · exact List.mem_cons_of_mem _ (inductionHypothesis found)

/-- Putting a value adds nothing else. -/
theorem eq_or_mem_of_mem_put [BEq κ] [LawfulBEq κ] {key : κ} {value : α} {table : Table κ α}
    {pair : κ × α} (member : pair ∈ table.put key value) : pair = (key, value) ∨ pair ∈ table := by
  induction table with
  | nil => simpa [put] using member
  | cons first rest inductionHypothesis =>
      obtain ⟨present, old⟩ := first
      rw [put] at member
      split at member
      · rename_i same
        rcases List.mem_cons.1 member with new | later
        · left
          rw [new, eq_of_beq same]
        · exact Or.inr (List.mem_cons_of_mem _ later)
      · rcases List.mem_cons.1 member with old | later
        · right
          simp [old]
        · rcases inductionHypothesis later with new | present
          · exact Or.inl new
          · exact Or.inr (List.mem_cons_of_mem _ present)

/-- The keys that are left are distinct. -/
theorem nodup_keys_remove [BEq κ] {table : Table κ α} (distinct : table.keys.Nodup) (key : κ) :
    (table.remove key).keys.Nodup :=
  distinct.sublist (List.filter_sublist.map Prod.fst)

/-- A key that is removed is not there any more. -/
theorem ne_of_mem_keys_remove [BEq κ] [LawfulBEq κ] {table : Table κ α} {key other : κ}
    (member : other ∈ (table.remove key).keys) : other ≠ key := by
  obtain ⟨pair, kept, rfl⟩ := List.mem_map.1 member
  have differs := (List.mem_filter.1 kept).2
  simpa using differs

end Table

end PathPolicy
