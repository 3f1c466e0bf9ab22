import PathPolicy.Proofs.Decision.Meaning

/-!
# One section for both permissions

What an entry does not grant it denies, so each entry has a word on reading and on writing alike,
however it was made.  A section then speaks on both permissions or on neither, and on the way up
from a path the same section decides about both: writing is never left to a section further up than
the one that decides about reading.
-/

namespace PathPolicy

theorem Entry.has_denies (entry : Entry) (permission : Permission) :
    entry.denies.has permission = !entry.grants.has permission :=
  Access.has_complement entry.grants permission

theorem Entry.ofMasks_eq_ok_iff_masks {principal : Principal} {grants denies : Access}
    {entry : Entry} :
    ofMasks principal grants denies = .ok entry ↔
      entry.principal = principal ∧ entry.grants = grants ∧ entry.denies = denies := by
  constructor
  · intro made
    rcases ofMasks_eq_ok_iff.1 made with ⟨rfl, rfl⟩
    exact ⟨rfl, rfl, rfl⟩
  · rintro ⟨rfl, rfl, rfl⟩
    exact ofMasks_masks entry

namespace Document

variable (document : Document) (identity : Identity) (permission : Permission)

/-- The verdict of a section has a word on a permission, whichever it is, when one of the entries is
for the identity. -/
theorem hasDecision_evaluate_iff_speaksTo (part : Section) :
    (document.evaluate (some part) identity).value.hasDecision (.only permission) = true ↔
      document.SpeaksTo identity part := by
  rw [hasDecision_evaluate, Bool.not_eq_true', List.isEmpty_eq_false_iff, grantsOf_ne_nil_iff]

theorem sectionName?_resolve (repository text : String) :
    (document.resolve repository (some text) identity (.only permission)).value.sectionName? =
      document.firstSpeaking? identity (candidates repository (.ofText text)) := by
  rw [value_resolve]
  cases document.firstSpeaking? identity (candidates repository (.ofText text)) <;> rfl

/-- A section decides when one of the candidates has a word. -/
theorem isFound_resolve (repository text : String) :
    (document.resolve repository (some text) identity (.only permission)).value.isFound =
      (document.firstSpeaking? identity (candidates repository (.ofText text))).isSome := by
  rw [value_resolve]
  cases document.firstSpeaking? identity (candidates repository (.ofText text)) <;> rfl

/-- An entry is made of two masks when they are what it grants and what it denies, and every
permission is in one of them.  So a section has a word on reading, and likewise on writing, exactly
when one of its entries is for the identity, and the same section decides about reading and about
writing a path, or none decides about either. -/
theorem read_and_write_decided_by_same_section :
    (∀ principal grants denies entry, Entry.ofMasks principal grants denies = .ok entry ↔
      entry.principal = principal ∧ entry.grants = grants ∧ entry.denies = denies) ∧
    (∀ (entry : Entry) permission,
      entry.denies.has permission = !entry.grants.has permission) ∧
    ∀ (document : Document) (identity : Identity),
      (∀ part : Section,
        ((document.evaluate (some part) identity).value.hasDecision (.only .read) = true ↔
          document.SpeaksTo identity part) ∧
        ((document.evaluate (some part) identity).value.hasDecision (.only .write) = true ↔
          document.SpeaksTo identity part)) ∧
      ∀ repository text,
        (document.resolve repository (some text) identity (.only .read)).value.isFound =
          (document.resolve repository (some text) identity (.only .write)).value.isFound ∧
        (document.resolve repository (some text) identity (.only .read)).value.sectionName? =
          (document.resolve repository (some text) identity (.only .write)).value.sectionName? := by
  refine ⟨fun _ _ _ _ => Entry.ofMasks_eq_ok_iff_masks, Entry.has_denies, ?_⟩
  intro document identity
  constructor
  · intro part
    exact ⟨document.hasDecision_evaluate_iff_speaksTo identity .read part,
      document.hasDecision_evaluate_iff_speaksTo identity .write part⟩
  · intro repository text
    rw [isFound_resolve, isFound_resolve, sectionName?_resolve, sectionName?_resolve]
    exact ⟨rfl, rfl⟩

end Document

end PathPolicy
