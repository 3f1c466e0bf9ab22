import PathPolicy.Proofs.Decision.Grants

/-!
# Decisions from verdicts

All that a document has to say on an identity is a verdict for each name.  Documents with the same
verdicts resolve every path alike, by a section of the same name, find the same paths vetoed from
below and give the same answers, whatever the mask is that is asked for.
-/

namespace PathPolicy

namespace Verdict

/-- Verdicts collect the same from lists of entries with the same members: neither the order of
the entries nor how often one stands there matters. -/
theorem foldl_withEntry_congr {entries others : List Entry}
    (same : ∀ entry, entry ∈ others ↔ entry ∈ entries) (verdict : Verdict) :
    others.foldl withEntry verdict = entries.foldl withEntry verdict := by
  have sameAny : ∀ test : Entry → Bool, others.any test = entries.any test := by
    intro test
    rw [Bool.eq_iff_iff]
    simp only [List.any_eq_true, same]
  have sameAllow : (others.foldl withEntry verdict).allow =
      (entries.foldl withEntry verdict).allow := by
    apply Access.ext
    intro permission
    rw [has_allow_foldl, has_allow_foldl, sameAny]
  have sameDeny : (others.foldl withEntry verdict).deny =
      (entries.foldl withEntry verdict).deny := by
    apply Access.ext
    intro permission
    rw [has_deny_foldl, has_deny_foldl, sameAny]
  calc
    others.foldl withEntry verdict =
        ⟨(others.foldl withEntry verdict).allow, (others.foldl withEntry verdict).deny⟩ := rfl
    _ = ⟨(entries.foldl withEntry verdict).allow, (entries.foldl withEntry verdict).deny⟩ := by
      rw [sameAllow, sameDeny]

theorem silent_allows (access : Access) : silent.allows access = true :=
  rfl

end Verdict

namespace Document

open Traced

/-- The verdict on an identity under a name; where no section is called so it is silence. -/
def verdictAt (document : Document) (identity : Identity) (name : String) : Verdict :=
  (document.evaluate (document.section? name) identity).value

variable {document : Document} {identity : Identity}

theorem value_evaluate_of_mem {part : Section} (member : part ∈ document.sections) :
    (document.evaluate (some part) identity).value = document.verdictAt identity part.name := by
  rw [verdictAt, section?_name_of_mem member]

theorem isSome_value_firstDenial_iff (access : Access) (parts : List Section) :
    (document.firstDenial identity access parts).value.isSome = true ↔
      ∃ part ∈ parts, (document.evaluate (some part) identity).value.allows access = false := by
  induction parts with
  | nil => simp [firstDenial]
  | cons part rest inductionHypothesis =>
      rw [firstDenial, value_bind]
      cases allowed : (document.evaluate (some part) identity).value.allows access with
      | true => simpa [allowed] using inductionHypothesis
      | false => simp [allowed]

/-- A path is vetoed exactly when the verdict under a name below it does not allow. -/
theorem value_anyBelowDenies_iff_verdictAt (repository text : String) (access : Access) :
    (document.anyBelowDenies repository text identity access).value = true ↔
      ∃ name, IsNameBelow repository (.ofText text) name ∧
        (document.verdictAt identity name).allows access = false := by
  rw [anyBelowDenies, value_map, value_denyingSection, isSome_value_firstDenial_iff]
  constructor
  · rintro ⟨part, below, refused⟩
    rcases mem_sectionsBelow_iff.1 below with ⟨member, nameBelow⟩
    rw [value_evaluate_of_mem member] at refused
    exact ⟨part.name, nameBelow, refused⟩
  · rintro ⟨name, nameBelow, refused⟩
    cases found : document.section? name with
    | none =>
        rw [verdictAt, found, evaluate, value_pure, Verdict.silent_allows] at refused
        cases refused
    | some part =>
        rcases section?_eq_some_iff.1 found with ⟨member, rfl⟩
        rw [← value_evaluate_of_mem member] at refused
        exact ⟨part, mem_sectionsBelow_iff.2 ⟨member, nameBelow⟩, refused⟩

variable {other : Document} {otherIdentity : Identity}

theorem value_firstDecision_congr
    (same : ∀ name,
      other.verdictAt otherIdentity name = document.verdictAt identity name)
    (access : Access) (names : List String) :
    (other.firstDecision otherIdentity access names).value =
      (document.firstDecision identity access names).value := by
  induction names with
  | nil => rfl
  | cons name rest inductionHypothesis =>
      have sameHere := same name
      rw [verdictAt, verdictAt] at sameHere
      rw [firstDecision, firstDecision, value_bind, value_bind, sameHere]
      split
      · rfl
      · exact inductionHypothesis

theorem value_climb_congr
    (same : ∀ name,
      other.verdictAt otherIdentity name = document.verdictAt identity name)
    (repository : String) (access : Access) (levels : List Path) :
    (other.climb repository otherIdentity access levels).value =
      (document.climb repository identity access levels).value := by
  induction levels with
  | nil => rfl
  | cons level above inductionHypothesis =>
      rw [climb, climb, value_bind, value_bind, resolveAt, resolveAt,
        value_firstDecision_congr same]
      split
      · exact inductionHypothesis
      · rfl

/-- The same verdicts, whoever they are on, resolve every path alike, the unknown one included. -/
theorem value_resolve_congr
    (same : ∀ name,
      other.verdictAt otherIdentity name = document.verdictAt identity name)
    (repository : String) (path? : Option String) (access : Access) :
    (other.resolve repository path? otherIdentity access).value =
      (document.resolve repository path? identity access).value := by
  cases path? with
  | none => rfl
  | some text =>
      exact value_climb_congr same repository access (Path.ofText text).lineage

theorem value_anyBelowDenies_congr
    (same : ∀ name,
      other.verdictAt otherIdentity name = document.verdictAt identity name)
    (repository text : String) (access : Access) :
    (other.anyBelowDenies repository text otherIdentity access).value =
      (document.anyBelowDenies repository text identity access).value := by
  rw [Bool.eq_iff_iff, value_anyBelowDenies_iff_verdictAt, value_anyBelowDenies_iff_verdictAt]
  simp only [same]

/-- The same verdicts give the same answers. -/
theorem allows_congr_of_verdictAt_eq
    (same : ∀ name,
      other.verdictAt otherIdentity name = document.verdictAt identity name)
    (repository : String) (path? : Option String) (kind : AccessKind) :
    other.allows repository path? otherIdentity kind =
      document.allows repository path? identity kind := by
  cases path? with
  | none => rfl
  | some text =>
      have resolved := value_resolve_congr same repository (some text) kind.required
      have vetoed := value_anyBelowDenies_congr same repository text kind.required
      rw [allows, allows, decideTraced, decideTraced, value_bind, value_bind, resolved]
      split
      · rw [value_map, value_map, vetoed]
      · rfl

end Document

end PathPolicy
