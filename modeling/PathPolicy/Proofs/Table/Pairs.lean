import Mathlib.Data.List.Induction
import PathPolicy.Table

/-!
# Tables of pairs

When pairs are put one after the other, the table has each key once, with the value that
was put last.  Pairs whose keys differ are a table already.
-/

namespace PathPolicy.Table

variable {κ α : Type}

/-- A key has its latest value in some pairs when none behind has the key. -/
def IsLatest (pairs : List (κ × α)) (key : κ) (value : α) : Prop :=
  ∃ before after, pairs = before ++ (key, value) :: after ∧ ∀ later ∈ after, later.1 ≠ key

theorem not_isLatest_nil (key : κ) (value : α) : ¬ IsLatest [] key value := by
  rintro ⟨before, after, split, _⟩
  simp at split

/-- The last pair is the latest for its key, and leaves what is the latest for others. -/
theorem isLatest_concat_iff {pairs : List (κ × α)} {last : κ × α} {key : κ} {value : α} :
    IsLatest (pairs ++ [last]) key value ↔
      (key, value) = last ∨ IsLatest pairs key value ∧ last.1 ≠ key := by
  constructor
  · rintro ⟨before, after, split, newest⟩
    rcases List.eq_nil_or_concat after with rfl | ⟨earlier, final, rfl⟩
    · left
      exact (List.append_inj_right' split rfl |> List.cons.inj).1.symm
    · right
      rw [List.concat_eq_append, ← List.cons_append, ← List.append_assoc] at split
      obtain ⟨samePairs, sameLast⟩ := List.append_inj' split rfl
      cases sameLast
      have newestEarlier : ∀ later ∈ earlier, later.1 ≠ key := by
        intro later member
        exact newest later (by simp [member])
      exact ⟨⟨before, earlier, samePairs, newestEarlier⟩, newest last (by simp)⟩
  · rintro (rfl | ⟨⟨before, after, rfl, newest⟩, differs⟩)
    · exact ⟨pairs, [], rfl, by simp⟩
    · have newestAll : ∀ later ∈ after ++ [last], later.1 ≠ key := by
        intro later member
        rcases List.mem_append.1 member with earlier | isLast
        · exact newest later earlier
        · rw [List.mem_singleton.1 isLast]
          exact differs
      exact ⟨before, after ++ [last], by simp, newestAll⟩

/-- Among pairs that are made from items, an item gives the latest value of its key when no
item behind has the key. -/
theorem isLatest_map_iff {ι : Type} {items : List ι} {keyOf : ι → κ} {valueOf : ι → α} {key : κ}
    {value : α} :
    IsLatest (items.map fun item => (keyOf item, valueOf item)) key value ↔
      ∃ before item after, items = before ++ item :: after ∧
        (∀ later ∈ after, keyOf later ≠ key) ∧ keyOf item = key ∧ valueOf item = value := by
  constructor
  · rintro ⟨before, after, split, newest⟩
    obtain ⟨itemsBefore, rest, rfl, _, behind⟩ := List.map_eq_append_iff.1 split
    obtain ⟨item, itemsAfter, rfl, made, rfl⟩ := List.map_eq_cons_iff.1 behind
    have newestItems : ∀ later ∈ itemsAfter, keyOf later ≠ key := by
      intro later member
      exact newest _ (List.mem_map_of_mem member)
    cases made
    exact ⟨itemsBefore, item, itemsAfter, rfl, newestItems, rfl, rfl⟩
  · rintro ⟨before, item, after, rfl, newest, rfl, rfl⟩
    have newestPairs : ∀ later ∈ after.map fun item => (keyOf item, valueOf item),
        later.1 ≠ keyOf item := by
      intro later member
      obtain ⟨origin, originMember, rfl⟩ := List.mem_map.1 member
      exact newest origin originMember
    exact ⟨_, _, List.map_append, newestPairs⟩

/-- Every key of some pairs has a latest value. -/
theorem exists_isLatest {pairs : List (κ × α)} {pair : κ × α} (member : pair ∈ pairs) :
    ∃ value, IsLatest pairs pair.1 value := by
  induction pairs using List.reverseRecOn with
  | nil => cases member
  | append_singleton earlier last inductionHypothesis =>
      by_cases same : last.1 = pair.1
      · exact ⟨last.2, isLatest_concat_iff.2 (Or.inl (by rw [← same]))⟩
      · have before : pair ∈ earlier := by
          rcases List.mem_append.1 member with before | isLast
          · exact before
          · exact absurd (congrArg Prod.fst (List.mem_singleton.1 isLast)).symm same
        obtain ⟨value, latest⟩ := inductionHypothesis before
        exact ⟨value, isLatest_concat_iff.2 (Or.inr ⟨latest, same⟩)⟩

/-- Where no key occurs twice, a key is not in front of itself. -/
theorem not_mem_keys_of_nodup_keys {key : κ} {value : α} {earlier rest : Table κ α}
    (distinct : (keys (earlier ++ (key, value) :: rest)).Nodup) : key ∉ earlier.keys := by
  rw [keys, List.map_append, List.map_cons, List.nodup_append] at distinct
  intro present
  exact distinct.2.2 key present key List.mem_cons_self rfl

variable [BEq κ]

theorem ofPairs_concat (pairs : List (κ × α)) (last : κ × α) :
    ofPairs (pairs ++ [last]) = (ofPairs pairs).put last.1 last.2 := by
  rw [ofPairs, List.foldl_append]
  rfl

variable [LawfulBEq κ]

/-- The keys of a table of pairs are distinct. -/
theorem nodup_keys_ofPairs (pairs : List (κ × α)) : (ofPairs pairs).keys.Nodup := by
  induction pairs using List.reverseRecOn with
  | nil => exact List.nodup_nil
  | append_singleton earlier last inductionHypothesis =>
      rw [ofPairs_concat]
      exact nodup_keys_put inductionHypothesis last.1 last.2

/-- Of two values that are put under a key the later one stays. -/
theorem put_put (key : κ) (value later : α) (table : Table κ α) :
    (table.put key value).put key later = table.put key later := by
  induction table with
  | nil => simp [put]
  | cons pair rest inductionHypothesis =>
      by_cases same : pair.1 == key
      · simp [put, same]
      · simpa [put, same] using inductionHypothesis

/-- Putting a value under a key leaves what is under other keys. -/
theorem mem_put_iff {table : Table κ α} (distinct : table.keys.Nodup) {key : κ} {value : α}
    {pair : κ × α} :
    pair ∈ table.put key value ↔ pair = (key, value) ∨ pair ∈ table ∧ key ≠ pair.1 := by
  induction table with
  | nil => simp [put]
  | cons first rest inductionHypothesis =>
      obtain ⟨present, old⟩ := first
      rw [keys, List.map_cons, List.nodup_cons] at distinct
      obtain ⟨absent, restDistinct⟩ := distinct
      rw [put]
      by_cases same : present = key
      · subst same
        rw [if_pos (beq_self_eq_true present)]
        have differs : ∀ later ∈ rest, present ≠ later.1 := by
          intro later member equal
          exact absent (List.mem_map.2 ⟨later, member, equal.symm⟩)
        constructor
        · intro member
          rcases List.mem_cons.1 member with new | later
          · exact Or.inl new
          · exact Or.inr ⟨List.mem_cons_of_mem _ later, differs pair later⟩
        · rintro (new | ⟨member, different⟩)
          · simp [new]
          · rcases List.mem_cons.1 member with rfl | later
            · exact absurd rfl different
            · exact List.mem_cons_of_mem _ later
      · rw [if_neg (by simpa using same), List.mem_cons, inductionHypothesis restDistinct,
          List.mem_cons]
        constructor
        · rintro (rfl | new | ⟨later, different⟩)
          · exact Or.inr ⟨Or.inl rfl, Ne.symm same⟩
          · exact Or.inl new
          · exact Or.inr ⟨Or.inr later, different⟩
        · rintro (new | ⟨rfl | later, different⟩)
          · exact Or.inr (Or.inl new)
          · exact Or.inl rfl
          · exact Or.inr (Or.inr ⟨later, different⟩)

/-- A table of pairs holds the latest value of each key. -/
theorem mem_ofPairs_iff {pairs : List (κ × α)} {key : κ} {value : α} :
    (key, value) ∈ ofPairs pairs ↔ IsLatest pairs key value := by
  induction pairs using List.reverseRecOn with
  | nil =>
      constructor
      · intro member
        cases member
      · intro latest
        exact absurd latest (not_isLatest_nil key value)
  | append_singleton earlier last inductionHypothesis =>
      rw [ofPairs_concat, mem_put_iff (nodup_keys_ofPairs earlier), inductionHypothesis,
        isLatest_concat_iff]

/-- Behind other keys the value under a key is found. -/
theorem get?_append_of_not_mem_keys {key : κ} {earlier : Table κ α} (absent : key ∉ earlier.keys)
    (rest : Table κ α) : get? key (earlier ++ rest) = get? key rest := by
  induction earlier with
  | nil => rfl
  | cons first later inductionHypothesis =>
      rw [keys, List.map_cons, List.mem_cons, not_or] at absent
      rcases absent with ⟨differs, laterAbsent⟩
      rw [List.cons_append, get?, if_neg (by simpa using Ne.symm differs),
        inductionHypothesis laterAbsent]

/-- Behind other keys the value under a key is replaced. -/
theorem put_append_of_not_mem_keys {key : κ} {earlier : Table κ α} (absent : key ∉ earlier.keys)
    (value : α) (rest : Table κ α) :
    put key value (earlier ++ rest) = earlier ++ put key value rest := by
  induction earlier with
  | nil => rfl
  | cons first later inductionHypothesis =>
      rw [keys, List.map_cons, List.mem_cons, not_or] at absent
      rcases absent with ⟨differs, laterAbsent⟩
      rw [List.cons_append, put, if_neg (by simpa using Ne.symm differs),
        inductionHypothesis laterAbsent, List.cons_append]

theorem put_of_not_mem_keys {key : κ} {table : Table κ α} (absent : key ∉ table.keys) (value : α) :
    table.put key value = table ++ [(key, value)] := by
  rw [← List.append_nil table, put_append_of_not_mem_keys absent, List.append_nil]
  rfl

/-- Pairs whose keys differ are a table as they stand. -/
theorem ofPairs_eq_self {pairs : List (κ × α)} (distinct : (pairs.map Prod.fst).Nodup) :
    ofPairs pairs = pairs := by
  induction pairs using List.reverseRecOn with
  | nil => rfl
  | append_singleton earlier last inductionHypothesis =>
      have absent : last.1 ∉ keys earlier := not_mem_keys_of_nodup_keys distinct
      have earlierDistinct : (earlier.map Prod.fst).Nodup :=
        distinct.sublist ((List.sublist_append_left earlier [last]).map Prod.fst)
      rw [ofPairs_concat, inductionHypothesis earlierDistinct, put_of_not_mem_keys absent]

/-- Taking a key out and putting a value under another can change places. -/
theorem remove_put_of_ne {key other : κ} (differs : other ≠ key) (value : α) (table : Table κ α) :
    remove key (put other value table) = put other value (remove key table) := by
  induction table with
  | nil => simp [remove, put, differs]
  | cons first rest inductionHypothesis =>
      obtain ⟨present, old⟩ := first
      rw [remove] at inductionHypothesis ⊢
      rw [remove] at inductionHypothesis ⊢
      by_cases same : present = other
      · subst same
        simp [put, differs]
      · by_cases removed : present = key
        · subst removed
          simpa [put, same] using inductionHypothesis
        · simpa [put, same, removed] using inductionHypothesis

/-- What is made of a table tells two values apart that are put under a key, if it tells the
pairs of the key and these values apart. -/
theorem eq_of_filterMap_put_eq {β : Type} {make : κ × α → Option β} {key : κ} {left right : α}
    {table : Table κ α}
    (same : (put key left table).filterMap make = (put key right table).filterMap make)
    {leftMade rightMade : β} (makesLeft : make (key, left) = some leftMade)
    (makesRight : make (key, right) = some rightMade) : leftMade = rightMade := by
  induction table with
  | nil => simpa [put, makesLeft, makesRight] using same
  | cons first rest inductionHypothesis =>
      obtain ⟨present, old⟩ := first
      rw [put, put] at same
      by_cases isKey : present = key
      · subst isKey
        simp only [beq_self_eq_true, if_true, List.filterMap_cons, makesLeft, makesRight,
          List.cons.injEq] at same
        exact same.1
      · rw [if_neg (by simpa using isKey), if_neg (by simpa using isKey), List.filterMap_cons,
          List.filterMap_cons] at same
        split at same
        · exact inductionHypothesis same
        · exact inductionHypothesis (List.cons.inj same).2

end PathPolicy.Table
