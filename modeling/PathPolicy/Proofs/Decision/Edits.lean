import Mathlib.Data.List.Nodup
import PathPolicy.Proofs.Decision.Grants

/-!
# Edits of a document

An edit puts some sections of a document in the place of others that stand together, and
leaves the other sections and the groups as they are.  What is granted under a name then
changes at one place: what the old sections grant gives way to what the new ones grant.
-/

namespace PathPolicy.Document

/-- A document is edited when the sections at one place of it are changed. -/
def EditedBy (change : List Section → List Section → Prop) (document edited : Document) : Prop :=
  edited.groups = document.groups ∧
    ∃ before old new after, change old new ∧
      document.sections = before ++ (old ++ after) ∧ edited.sections = before ++ (new ++ after)

variable (document : Document) (identity : Identity)

/-- What those of some sections grant that have a name. -/
def grantsUnder (name : String) (parts : List Section) : List Access :=
  parts.flatMap fun part => if part.name = name then document.grantsOf identity part.entries else []

@[simp]
theorem grantsUnder_nil (name : String) : document.grantsUnder identity name [] = [] :=
  rfl

theorem grantsUnder_append (name : String) (before after : List Section) :
    document.grantsUnder identity name (before ++ after) =
      document.grantsUnder identity name before ++ document.grantsUnder identity name after := by
  simp [grantsUnder]

theorem grantsUnder_cons (name : String) (part : Section) (rest : List Section) :
    document.grantsUnder identity name (part :: rest) =
      (if part.name = name then document.grantsOf identity part.entries else []) ++
        document.grantsUnder identity name rest :=
  rfl

theorem grantsUnder_singleton (name : String) (part : Section) :
    document.grantsUnder identity name [part] =
      if part.name = name then document.grantsOf identity part.entries else [] := by
  rw [grantsUnder_cons, grantsUnder_nil, List.append_nil]

theorem grantsUnder_eq_nil {name : String} {parts : List Section}
    (absent : name ∉ parts.map Section.name) : document.grantsUnder identity name parts = [] := by
  rw [grantsUnder, List.flatMap_eq_nil_iff]
  intro part member
  apply if_neg
  rintro rfl
  exact absent (List.mem_map_of_mem member)

/-- What a document grants under a name is what those of its sections grant that have it: there
is at most one. -/
theorem grantsAt_eq_grantsUnder (name : String) :
    document.grantsAt identity name = document.grantsUnder identity name document.sections := by
  cases found : document.section? name with
  | none =>
      have absent : name ∉ document.sections.map Section.name := by
        simpa [section?] using found
      rw [grantsAt, found, grantsUnder_eq_nil document identity absent]
  | some part =>
      rcases section?_eq_some_iff.1 found with ⟨member, rfl⟩
      rcases List.append_of_mem member with ⟨before, after, split⟩
      have distinct := document.sectionsDistinct
      rw [split, List.map_append, List.map_cons, List.nodup_middle, List.nodup_cons,
        List.mem_append, not_or] at distinct
      rcases distinct with ⟨⟨notBefore, notAfter⟩, _⟩
      rw [grantsAt_of_mem identity member, split, grantsUnder_append, grantsUnder_cons,
        grantsUnder_eq_nil document identity notBefore,
        grantsUnder_eq_nil document identity notAfter]
      simp

variable {document}

theorem applies_congr {other : Document} (sameGroups : other.groups = document.groups)
    (entry : Entry) (who : Identity) : other.applies entry who = document.applies entry who := by
  have sameMembers : other.groupMembers = document.groupMembers := by
    funext name
    rw [groupMembers, groupMembers, sameGroups]
  simp only [applies, sameMembers]

theorem grantsUnder_congr {other : Document} (sameGroups : other.groups = document.groups)
    (name : String) (parts : List Section) :
    other.grantsUnder identity name parts = document.grantsUnder identity name parts := by
  simp only [grantsUnder, grantsOf, applying, applies_congr sameGroups]

/-- An edit changes what is granted under a name at one place. -/
theorem EditedBy.exists_grantsAt_eq {change : List Section → List Section → Prop}
    {edited : Document} (edit : document.EditedBy change edited) (name : String) :
    ∃ old new, change old new ∧ ∃ before after,
      document.grantsAt identity name =
        before ++ (document.grantsUnder identity name old ++ after) ∧
      edited.grantsAt identity name =
        before ++ (document.grantsUnder identity name new ++ after) := by
  rcases edit with ⟨sameGroups, before, old, new, after, changed, source, result⟩
  refine ⟨old, new, changed, document.grantsUnder identity name before,
    document.grantsUnder identity name after, ?_, ?_⟩
  · rw [grantsAt_eq_grantsUnder, source, grantsUnder_append, grantsUnder_append]
  · rw [grantsAt_eq_grantsUnder, grantsUnder_congr identity sameGroups, result,
      grantsUnder_append, grantsUnder_append]

end PathPolicy.Document
