import Mathlib.Data.List.Forall2

/-!
# The first fault

Readings that follow each other end with the first fault.  A row of readings succeeds
when each of them does, and what one row reports is the fault of one of its items, all
items before it being sound.
-/

namespace PathPolicy

variable {ε α β : Type}

/-- Two readings succeed when the first does and then the second on its result. -/
theorem bind_eq_ok_iff {first : Except ε α} {next : α → Except ε β} {result : β} :
    (first >>= next) = .ok result ↔ ∃ value, first = .ok value ∧ next value = .ok result := by
  cases first with
  | error fault => simp [bind, Except.bind]
  | ok value => simp [bind, Except.bind]

theorem bind_eq_error_iff {first : Except ε α} {next : α → Except ε β} {fault : ε} :
    (first >>= next) = .error fault ↔
      first = .error fault ∨ ∃ value, first = .ok value ∧ next value = .error fault := by
  cases first with
  | error other => simp [bind, Except.bind]
  | ok value => simp [bind, Except.bind]

/-- Two readings fail in some way when the first does, or the second on its result. -/
theorem exists_bind_eq_error_iff {first : Except ε α} {next : α → Except ε β} {kind : ε → Prop} :
    (∃ fault, (first >>= next) = .error fault ∧ kind fault) ↔
      (∃ fault, first = .error fault ∧ kind fault) ∨
      ∃ value, first = .ok value ∧ ∃ fault, next value = .error fault ∧ kind fault := by
  cases first with
  | error other => simp [bind, Except.bind]
  | ok value => simp [bind, Except.bind]

theorem map_eq_ok_iff {first : Except ε α} {read : α → β} {result : β} :
    first.map read = .ok result ↔ ∃ value, first = .ok value ∧ read value = result := by
  cases first <;> simp [Except.map]

theorem map_eq_error_iff {first : Except ε α} {read : α → β} {fault : ε} :
    first.map read = .error fault ↔ first = .error fault := by
  cases first <;> simp [Except.map]

theorem mapError_eq_ok_iff {ζ : Type} {first : Except ε α} {read : ε → ζ} {result : α} :
    first.mapError read = .ok result ↔ first = .ok result := by
  cases first <;> simp [Except.mapError]

theorem mapError_eq_error_iff {ζ : Type} {first : Except ε α} {read : ε → ζ} {fault : ζ} :
    first.mapError read = .error fault ↔
      ∃ original, first = .error original ∧ read original = fault := by
  cases first <;> simp [Except.mapError]

/-- A row of readings succeeds when each of them does. -/
theorem mapM_eq_ok_iff {read : α → Except ε β} {items : List α} {results : List β} :
    items.mapM read = .ok results ↔
      List.Forall₂ (fun item result => read item = .ok result) items results := by
  induction items generalizing results with
  | nil =>
      rw [List.mapM_nil, List.forall₂_nil_left_iff]
      constructor
      · intro read
        cases read
        rfl
      · rintro rfl
        rfl
  | cons item rest inductionHypothesis =>
      rw [List.mapM_cons, bind_eq_ok_iff, List.forall₂_cons_left_iff]
      constructor
      · rintro ⟨first, readFirst, remaining⟩
        obtain ⟨others, readOthers, joined⟩ := bind_eq_ok_iff.1 remaining
        cases joined
        exact ⟨first, others, readFirst, inductionHypothesis.1 readOthers, rfl⟩
      · rintro ⟨first, others, readFirst, readOthers, rfl⟩
        exact ⟨first, readFirst, bind_eq_ok_iff.2 ⟨others, inductionHypothesis.2 readOthers, rfl⟩⟩

/-- One of some items fails, and every item before it passes. -/
def FirstFails (passes fails : α → Prop) (items : List α) : Prop :=
  ∃ before item after, items = before ++ item :: after ∧ (∀ other ∈ before, passes other) ∧
    fails item

@[simp]
theorem not_firstFails_nil {passes fails : α → Prop} : ¬ FirstFails passes fails [] := by
  rintro ⟨before, item, after, split, _⟩
  simp at split

@[simp]
theorem firstFails_cons_iff {passes fails : α → Prop} {item : α} {rest : List α} :
    FirstFails passes fails (item :: rest) ↔
      fails item ∨ passes item ∧ FirstFails passes fails rest := by
  constructor
  · rintro ⟨before, culprit, after, split, sound, failed⟩
    cases before with
    | nil =>
        cases split
        exact Or.inl failed
    | cons first before =>
        cases split
        rw [List.forall_mem_cons] at sound
        exact Or.inr ⟨sound.1, before, culprit, after, rfl, sound.2, failed⟩
  · rintro (failed | ⟨passed, before, culprit, after, rfl, sound, failed⟩)
    · exact ⟨[], item, rest, rfl, by simp, failed⟩
    · exact ⟨item :: before, culprit, after, rfl, List.forall_mem_cons.2 ⟨passed, sound⟩, failed⟩

theorem FirstFails.exists_mem {passes fails : α → Prop} {items : List α}
    (failing : FirstFails passes fails items) : ∃ item ∈ items, fails item := by
  obtain ⟨before, item, after, rfl, _, failed⟩ := failing
  exact ⟨item, by simp, failed⟩

theorem mapM_eq_error_iff {read : α → Except ε β} {items : List α} {fault : ε} :
    items.mapM read = .error fault ↔
      FirstFails (fun item => ∃ result, read item = .ok result)
        (fun item => read item = .error fault) items := by
  induction items with
  | nil => simp [pure, Except.pure]
  | cons item rest inductionHypothesis =>
      rw [List.mapM_cons, bind_eq_error_iff, firstFails_cons_iff, ← inductionHypothesis]
      simp only [bind_eq_error_iff, pure, Except.pure, reduceCtorEq, and_false, exists_false,
        or_false, exists_and_right]

/-- A row of readings fails in some way exactly when its first fault is of that kind. -/
theorem exists_mapM_eq_error_iff {read : α → Except ε β} {items : List α} {kind : ε → Prop} :
    (∃ fault, items.mapM read = .error fault ∧ kind fault) ↔
      FirstFails (fun item => ∃ result, read item = .ok result)
        (fun item => ∃ fault, read item = .error fault ∧ kind fault) items := by
  simp only [mapM_eq_error_iff]
  constructor
  · rintro ⟨fault, ⟨before, item, after, split, sound, failed⟩, isKind⟩
    exact ⟨before, item, after, split, sound, fault, failed, isKind⟩
  · rintro ⟨before, item, after, split, sound, fault, failed, isKind⟩
    exact ⟨fault, ⟨before, item, after, split, sound, failed⟩, isKind⟩

/-- What is in one of two lists that are related item by item has a partner in the other. -/
theorem exists_mem_of_forall₂ {α β : Type} {related : α → β → Prop} {items : List α}
    {others : List β} (relates : List.Forall₂ related items others) {item : α}
    (member : item ∈ items) : ∃ other ∈ others, related item other := by
  induction relates with
  | nil => cases member
  | cons first _ inductionHypothesis =>
      rcases List.mem_cons.1 member with rfl | later
      · exact ⟨_, List.mem_cons_self, first⟩
      · rcases inductionHypothesis later with ⟨other, isOther, isRelated⟩
        exact ⟨other, List.mem_cons_of_mem _ isOther, isRelated⟩

theorem exists_of_mem_mapM {read : α → Except ε β} {items : List α} {results : List β}
    (allRead : items.mapM read = .ok results) {result : β} (member : result ∈ results) :
    ∃ item ∈ items, read item = .ok result :=
  exists_mem_of_forall₂ (mapM_eq_ok_iff.1 allRead).flip member

/-- A row of readings has results exactly when every item has one. -/
theorem exists_mapM_eq_ok_iff {read : α → Except ε β} {items : List α} :
    (∃ results, items.mapM read = .ok results) ↔
      ∀ item ∈ items, ∃ result, read item = .ok result := by
  constructor
  · rintro ⟨results, allRead⟩ item member
    rcases exists_mem_of_forall₂ (mapM_eq_ok_iff.1 allRead) member with ⟨result, _, read⟩
    exact ⟨result, read⟩
  · intro each
    cases outcome : items.mapM read with
    | ok results => exact ⟨results, rfl⟩
    | error fault =>
        obtain ⟨item, member, failed⟩ := (mapM_eq_error_iff.1 outcome).exists_mem
        obtain ⟨result, readItem⟩ := each item member
        rw [failed] at readItem
        cases readItem

end PathPolicy
