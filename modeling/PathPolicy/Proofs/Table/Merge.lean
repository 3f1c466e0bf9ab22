import PathPolicy.Proofs.Table.Pairs

/-!
# Merged tables

Two tables merge into one that begins with the keys of the first and goes on with the keys that are
only in the second.  A table is known by its keys in their order and by the value under each of
them, and so putting a value into the second table puts it into the merged one.
-/

namespace PathPolicy.Table

variable {κ α : Type} [BEq κ]

/-- The keys of the first table, then those that are only in the second; under a key of both tables
is what is made of its two values. -/
def mergeWith (combine : α → α → α) (first second : Table κ α) : Table κ α :=
  (first.map fun pair => (pair.1, (second.get? pair.1).elim pair.2 (combine pair.2))) ++
    second.filter fun pair => !first.keys.contains pair.1

/-- The table with the values of another one, where that has a value. -/
def updatedBy (table updates : Table κ α) : Table κ α :=
  mergeWith (fun _ newest => newest) table updates

theorem mergeWith_nil (combine : α → α → α) (table : Table κ α) :
    mergeWith combine table [] = table := by
  simp [mergeWith]

theorem nil_mergeWith (combine : α → α → α) (table : Table κ α) :
    mergeWith combine [] table = table := by
  simp [mergeWith, keys]

/-! ## What is found -/

theorem get?_append (key : κ) (first second : Table κ α) :
    get? key (first ++ second) = (first.get? key).or (second.get? key) := by
  induction first with
  | nil => rfl
  | cons pair rest inductionHypothesis =>
      rw [List.cons_append, get?, get?, inductionHypothesis]
      split <;> rfl

variable [LawfulBEq κ]

theorem get?_eq_none_iff {key : κ} {table : Table κ α} :
    table.get? key = none ↔ key ∉ table.keys := by
  induction table with
  | nil => simp [keys]
  | cons pair rest inductionHypothesis =>
      rw [keys] at inductionHypothesis
      rw [get?, keys, List.map_cons, List.mem_cons, not_or, ← inductionHypothesis]
      by_cases same : pair.1 = key
      · simp [same]
      · simp [same, Ne.symm same]

/-- Tables with the same keys in the same order and with the same values are equal. -/
theorem eq_of_get?_eq {left right : Table κ α} (distinct : left.keys.Nodup)
    (sameKeys : left.keys = right.keys)
    (sameValues : ∀ key, left.get? key = right.get? key) : left = right := by
  induction left generalizing right with
  | nil => exact (List.map_eq_nil_iff.1 sameKeys.symm).symm
  | cons pair rest inductionHypothesis =>
      cases right with
      | nil => cases sameKeys
      | cons other others =>
          rcases pair with ⟨key, value⟩
          rcases other with ⟨otherKey, otherValue⟩
          rw [keys, keys, List.map_cons, List.map_cons, List.cons.injEq] at sameKeys
          rcases sameKeys with ⟨sameKey, sameRest⟩
          cases sameKey
          rw [keys, List.map_cons, List.nodup_cons] at distinct
          rcases distinct with ⟨absent, restDistinct⟩
          have sameValue : value = otherValue := by simpa [get?] using sameValues key
          have sameLater : ∀ later, get? later rest = get? later others := by
            intro later
            by_cases isKey : key = later
            · subst isKey
              have inNeither : get? key rest = none ∧ get? key others = none := by
                rw [get?_eq_none_iff, get?_eq_none_iff, keys, keys, ← sameRest]
                exact ⟨absent, absent⟩
              rw [inNeither.1, inNeither.2]
            · simpa [get?, isKey] using sameValues later
          rw [sameValue, inductionHypothesis restDistinct sameRest sameLater]

theorem get?_map_values (key : κ) (change : κ → α → α) (table : Table κ α) :
    get? key (table.map fun pair => (pair.1, change pair.1 pair.2)) =
      (table.get? key).map (change key) := by
  induction table with
  | nil => rfl
  | cons pair rest inductionHypothesis =>
      rw [List.map_cons, get?, get?, inductionHypothesis]
      by_cases same : pair.1 = key <;> simp [same]

theorem get?_filter_keys (key : κ) (keep : κ → Bool) (table : Table κ α) :
    get? key (table.filter fun pair => keep pair.1) =
      if keep key then table.get? key else none := by
  induction table with
  | nil => simp
  | cons pair rest inductionHypothesis =>
      rw [List.filter_cons, get?]
      by_cases same : pair.1 = key
      · subst same
        cases kept : keep pair.1 <;> simp [get?, kept, inductionHypothesis]
      · cases kept : keep pair.1 <;> simp [get?, same, inductionHypothesis]

/-- Under a key of a merged table is what is made of the values under it. -/
theorem get?_mergeWith (combine : α → α → α) (first second : Table κ α) (key : κ) :
    (mergeWith combine first second).get? key =
      Option.merge combine (first.get? key) (second.get? key) := by
  rw [mergeWith, get?_append,
    get?_map_values key fun key value => (second.get? key).elim value (combine value),
    get?_filter_keys key fun key => !first.keys.contains key]
  cases inFirst : first.get? key with
  | none =>
      have absent : key ∉ first.keys := get?_eq_none_iff.1 inFirst
      cases second.get? key <;> simp [absent]
  | some value => cases second.get? key <;> rfl

theorem get?_updatedBy (table updates : Table κ α) (key : κ) :
    (table.updatedBy updates).get? key = (updates.get? key).or (table.get? key) := by
  rw [updatedBy, get?_mergeWith]
  cases table.get? key <;> cases updates.get? key <;> rfl

/-! ## Keys -/

/-- Keys that are distinct appear for the first time each. -/
theorem eraseDups_eq_self {keys : List κ} (distinct : keys.Nodup) : keys.eraseDups = keys := by
  induction keys with
  | nil => rfl
  | cons key rest inductionHypothesis =>
      rw [List.nodup_cons] at distinct
      rcases distinct with ⟨absent, restDistinct⟩
      have allOthers : rest.filter (fun other => !other == key) = rest := by
        rw [List.filter_eq_self]
        intro other member
        have differs : other ≠ key := fun same => absent (same ▸ member)
        simpa using differs
      rw [List.eraseDups_cons, allOthers, inductionHypothesis restDistinct]

/-- Behind other keys those appear for the first time that are not among them. -/
theorem eraseDups_append_of_nodup {old new : List κ} (distinct : new.Nodup) :
    (old ++ new).eraseDups = old.eraseDups ++ new.removeAll old.eraseDups := by
  have sameOld : new.removeAll old.eraseDups = new.removeAll old := by
    simp [List.removeAll, List.mem_eraseDups]
  have newDistinct : (new.removeAll old).Nodup := distinct.sublist List.filter_sublist
  rw [List.eraseDups_append, eraseDups_eq_self newDistinct, sameOld]

theorem keys_mergeWith (combine : α → α → α) (first second : Table κ α) :
    (mergeWith combine first second).keys = first.keys ++ second.keys.removeAll first.keys := by
  simp [mergeWith, keys, List.removeAll, List.filter_map, Function.comp_def]

theorem nodup_keys_mergeWith (combine : α → α → α) {first second : Table κ α}
    (firstDistinct : first.keys.Nodup) (secondDistinct : second.keys.Nodup) :
    (mergeWith combine first second).keys.Nodup := by
  rw [keys_mergeWith, List.nodup_append]
  refine ⟨firstDistinct, secondDistinct.sublist List.filter_sublist, ?_⟩
  rintro key inFirst other isNew rfl
  simpa [inFirst] using (List.mem_filter.1 isNew).2

/-- A value that is put into the second table is put into the merged one, combined with the value
that the first table has. -/
theorem put_mergeWith (combine : α → α → α) {first second : Table κ α}
    (firstDistinct : first.keys.Nodup) (secondDistinct : second.keys.Nodup) {key : κ}
    {value combined : α}
    (made : Option.merge combine (first.get? key) (some value) = some combined) :
    (mergeWith combine first second).put key combined =
      mergeWith combine first (second.put key value) := by
  apply eq_of_get?_eq
  · exact nodup_keys_put (nodup_keys_mergeWith combine firstDistinct secondDistinct) key combined
  · rw [keys_put, keys_mergeWith, keys_mergeWith, keys_put]
    by_cases inFirst : key ∈ first.keys <;> by_cases inSecond : key ∈ second.keys <;>
      simp [List.removeAll, inFirst, inSecond]
  · intro other
    rw [get?_mergeWith]
    by_cases same : other = key
    · subst same
      rw [get?_put_self, get?_put_self, made]
    · rw [get?_put_of_ne same, get?_put_of_ne same, get?_mergeWith]

end PathPolicy.Table
