import Mathlib.Data.List.Nodup
import PathPolicy.Proofs.Decision.Verdicts
import PathPolicy.Proofs.FirstFault

/-!
# The arrangement of a policy

A policy is rearranged when its sections, the entries in them and its groups are put into other
orders and entries are repeated.  Sections are looked at in order, and so are entries, but a
verdict only collects, a name is the name of one section, and any veto is as good as another.  So
the arrangement decides nothing: it can at most change which of several vetoing sections is found
first.
-/

namespace PathPolicy

/-- A section is rearranged when its entries are put into another order and some of them are
repeated. -/
def Section.Rearranges (part other : Section) : Prop :=
  other.name = part.name ∧
    ∃ repeated ⊆ part.entries, (part.entries ++ repeated).Perm other.entries

/-- A document is rearranged when each of its sections is and these, as well as its groups, are put
into another order. -/
structure Document.Rearranges (document other : Document) : Prop where
  sections : ∃ parts, List.Forall₂ Section.Rearranges document.sections parts ∧
    parts.Perm other.sections
  groups : document.groups.Perm other.groups

theorem Section.Rearranges.mem_entries_iff {part other : Section}
    (rearranged : part.Rearranges other) (entry : Entry) :
    entry ∈ other.entries ↔ entry ∈ part.entries := by
  rcases rearranged with ⟨_, repeated, present, arranged⟩
  rw [← arranged.mem_iff, List.mem_append]
  constructor
  · rintro (original | copy)
    · exact original
    · exact present copy
  · exact Or.inl

namespace Document

variable {document other : Document}

theorem Rearranges.exists_section (rearranged : document.Rearranges other) {part : Section}
    (member : part ∈ document.sections) :
    ∃ again ∈ other.sections, part.Rearranges again := by
  rcases rearranged.sections with ⟨parts, related, arranged⟩
  rcases exists_mem_of_forall₂ related member with ⟨again, isAgain, same⟩
  exact ⟨again, arranged.mem_iff.1 isAgain, same⟩

theorem Rearranges.exists_original (rearranged : document.Rearranges other) {again : Section}
    (member : again ∈ other.sections) :
    ∃ part ∈ document.sections, part.Rearranges again := by
  rcases rearranged.sections with ⟨parts, related, arranged⟩
  have flipped : List.Forall₂ (flip Section.Rearranges) parts document.sections := related.flip
  rcases exists_mem_of_forall₂ flipped (arranged.mem_iff.2 member) with ⟨part, isPart, same⟩
  exact ⟨part, isPart, same⟩

theorem Rearranges.applies_eq (rearranged : document.Rearranges other) (entry : Entry)
    (identity : Identity) : other.applies entry identity = document.applies entry identity := by
  have sameMembers : ∀ name, other.groupMembers name = document.groupMembers name := by
    intro name
    apply MemberSet.eq_of_mem_iff
    intro user
    simp only [mem_groupMembers_iff, rearranged.groups.mem_iff]
  simp only [applies, sameMembers]

theorem Rearranges.value_evaluate_eq (rearranged : document.Rearranges other) {part again : Section}
    (same : part.Rearranges again) (identity : Identity) :
    (other.evaluate (some again) identity).value =
      (document.evaluate (some part) identity).value := by
  rw [evaluate, evaluate, value_collect, value_collect]
  apply Verdict.foldl_withEntry_congr
  intro entry
  simp only [applying, List.mem_filter, rearranged.applies_eq, same.mem_entries_iff]

/-- Under every name a rearranged document has the same verdict. -/
theorem Rearranges.verdictAt_eq (rearranged : document.Rearranges other) (identity : Identity)
    (name : String) : other.verdictAt identity name = document.verdictAt identity name := by
  cases found : document.section? name with
  | some part =>
      rcases section?_eq_some_iff.1 found with ⟨member, rfl⟩
      rcases rearranged.exists_section member with ⟨again, isAgain, same⟩
      rw [← value_evaluate_of_mem member, ← rearranged.value_evaluate_eq same,
        value_evaluate_of_mem isAgain, same.1]
  | none =>
      have absent : other.section? name = none := by
        cases foundAgain : other.section? name with
        | none => rfl
        | some again =>
            rcases section?_eq_some_iff.1 foundAgain with ⟨isAgain, rfl⟩
            rcases rearranged.exists_original isAgain with ⟨part, member, same⟩
            rw [same.1, section?_name_of_mem member] at found
            cases found
      rw [verdictAt, verdictAt, found, absent]
      rfl

/-- However the sections, their entries and the groups of a policy are arranged, and whichever
entries are repeated, each request has the same answer, each path is resolved alike, by a section of
the same name, and vetoed from below or not alike, for every mask that is asked for. -/
theorem decides_alike_of_rearranges (rearranged : document.Rearranges other) (identity : Identity) :
    (∀ repository path? kind, other.allows repository path? identity kind =
        document.allows repository path? identity kind) ∧
      (∀ repository path? access, (other.resolve repository path? identity access).value =
        (document.resolve repository path? identity access).value) ∧
      ∀ repository path access, (other.anyBelowDenies repository path identity access).value =
        (document.anyBelowDenies repository path identity access).value := by
  have same := rearranged.verdictAt_eq identity
  exact ⟨allows_congr_of_verdictAt_eq same, value_resolve_congr same,
    value_anyBelowDenies_congr same⟩

/-- A policy in which two sections below the root deny. -/
def twiceVetoed : Document where
  sections :=
    [⟨"/", [⟨.anyone, .none⟩, ⟨.group ⟨"crew", by decide⟩, .only .read⟩]⟩,
      ⟨"/a", [⟨.anyone, .none⟩]⟩, ⟨"/b", [⟨.group ⟨"crew", by decide⟩, .only .write⟩]⟩]
  groups := [⟨"crew", .ofList ["cook"]⟩, ⟨"band", .ofList ["drummer"]⟩]
  unreserved := by decide
  sectionsDistinct := by decide
  groupsDistinct := by decide

/-- The same policy written backwards, with one entry repeated. -/
def twiceVetoedBackwards : Document where
  sections :=
    [⟨"/b", [⟨.group ⟨"crew", by decide⟩, .only .write⟩]⟩, ⟨"/a", [⟨.anyone, .none⟩]⟩,
      ⟨"/", [⟨.anyone, .none⟩, ⟨.group ⟨"crew", by decide⟩, .only .read⟩, ⟨.anyone, .none⟩]⟩]
  groups := [⟨"band", .ofList ["drummer"]⟩, ⟨"crew", .ofList ["cook"]⟩]
  unreserved := by decide
  sectionsDistinct := by decide
  groupsDistinct := by decide

/-- Written backwards the policy still lets the cook read the root and not what is below, though it
is another section that is found to veto. -/
theorem twiceVetoedBackwards_decides_alike :
    twiceVetoed.Rearranges twiceVetoedBackwards ∧
    twiceVetoedBackwards.allows "repo" (some "/") (.named "cook") .readRecursive =
      twiceVetoed.allows "repo" (some "/") (.named "cook") .readRecursive ∧
    (twiceVetoedBackwards.resolve "repo" (some "/") (.named "cook") .both).value =
      (twiceVetoed.resolve "repo" (some "/") (.named "cook") .both).value ∧
    (twiceVetoedBackwards.denyingSection "repo" "/" (.named "cook") (.only .read)).value ≠
      (twiceVetoed.denyingSection "repo" "/" (.named "cook") (.only .read)).value := by
  have rearranged : twiceVetoed.Rearranges twiceVetoedBackwards := by
    refine ⟨⟨twiceVetoedBackwards.sections.reverse, ?_, List.reverse_perm _⟩, ?_⟩
    · refine .cons ⟨rfl, [⟨.anyone, .none⟩], by decide, ?_⟩ <|
        .cons ⟨rfl, [], by simp, .refl _⟩ <| .cons ⟨rfl, [], by simp, .refl _⟩ .nil
      exact .refl _
    · exact (List.reverse_perm _).symm
  rcases decides_alike_of_rearranges rearranged (.named "cook") with ⟨sameAnswers, sameResolved, _⟩
  exact ⟨rearranged, sameAnswers _ _ _, sameResolved _ _ _, by decide +kernel⟩

end Document

end PathPolicy
