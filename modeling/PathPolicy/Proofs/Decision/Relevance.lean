import Mathlib.Logic.Relation
import PathPolicy.Proofs.Decision.Edits
import PathPolicy.Proofs.Decision.Standing

/-!
# What a decision rests on

A decision about an identity rests on the entries that apply to it, and a decision about a path
on the sections whose names are looked at for the path.  Whatever else stands in a policy has no
say: the entries, the groups and the empty sections of other people, the sections of other paths
and all sections of other repositories.
-/

namespace PathPolicy

/-! ## The entries of others -/

/-- What is left of a section for those without a name: the entries for anyone. -/
def Section.anonymousPart (part : Section) : Section where
  name := part.name
  entries := part.entries.filter fun entry => entry.principal = .anyone

/-- What is left of a document for those without a name: the entries for anyone, the sections
that have one, and no group. -/
def Document.anonymousPart (document : Document) : Document where
  sections := (document.sections.map Section.anonymousPart).filter fun part =>
    !part.entries.isEmpty
  groups := []
  unreserved := by
    intro part member
    rcases List.mem_map.1 (List.mem_filter.1 member).1 with ⟨original, originalMember, rfl⟩
    exact document.unreserved original originalMember
  sectionsDistinct := by
    have sameNames : (document.sections.map Section.anonymousPart).map Section.name =
        document.sections.map Section.name := by
      rw [List.map_map]
      rfl
    apply List.Nodup.sublist (List.filter_sublist.map Section.name)
    rw [sameNames]
    exact document.sectionsDistinct
  groupsDistinct := List.nodup_nil

namespace Document

variable (document : Document)

theorem applies_anonymous (entry : Entry) :
    document.applies entry .anonymous = decide (entry.principal = .anyone) := by
  rcases entry with ⟨principal, grants⟩
  cases principal <;> simp [applies]

theorem grantsOf_anonymousPart (part : Section) :
    document.anonymousPart.grantsOf .anonymous part.anonymousPart.entries =
      document.grantsOf .anonymous part.entries := by
  simp only [grantsOf, applying, Section.anonymousPart, applies_anonymous, List.filter_filter,
    Bool.and_self]

theorem grantsUnder_anonymousPart (name : String) (parts : List Section) :
    document.anonymousPart.grantsUnder .anonymous name
        ((parts.map Section.anonymousPart).filter fun part => !part.entries.isEmpty) =
      document.grantsUnder .anonymous name parts := by
  induction parts with
  | nil => rfl
  | cons part rest inductionHypothesis =>
      rw [List.map_cons, grantsUnder_cons, ← inductionHypothesis, ← grantsOf_anonymousPart]
      by_cases leftEmpty : part.anonymousPart.entries = []
      · rw [List.filter_cons_of_neg (by simp [leftEmpty]), leftEmpty, grantsOf_nil, ite_self,
          List.nil_append]
      · rw [List.filter_cons_of_pos (by simp [leftEmpty]), grantsUnder_cons]
        rfl

/-- Decisions about an identity rest on what the entries that apply to it grant under each name:
documents that agree on this decide alike, whatever else is in them.  So all that is not for
anyone can go without a change for those who have no name. -/
theorem allows_congr_of_same_grants :
    (∀ (left right : Document) (identity : Identity),
      (∀ name, left.grantsAt identity name = right.grantsAt identity name) →
        ∀ repository path? kind,
          left.allows repository path? identity kind = right.allows repository path? identity kind) ∧
    ∀ (document : Document) repository path? kind,
      document.anonymousPart.allows repository path? .anonymous kind =
        document.allows repository path? .anonymous kind := by
  constructor
  · intro left right identity same repository path? kind
    cases path? with
    | none => rfl
    | some text =>
        apply allows_congr_of_grantsAt_eq
        intro name _
        exact same name
  · intro document repository path? kind
    cases path? with
    | none => rfl
    | some text =>
        apply allows_congr_of_grantsAt_eq
        intro name _
        rw [grantsAt_eq_grantsUnder, grantsAt_eq_grantsUnder]
        exact document.grantsUnder_anonymousPart name document.sections

theorem carol_ne_empty : "carol" ≠ "" := by decide

theorem devs_ne_empty : "devs" ≠ "" := by decide

/-- A policy that lets carol read by an entry of her own. -/
def byName : Document where
  sections :=
    [⟨"/a",
        [⟨.group ⟨"devs", devs_ne_empty⟩, .none⟩, ⟨.user ⟨"carol", carol_ne_empty⟩, .only .read⟩]⟩,
      ⟨"/a/b", [⟨.group ⟨"devs", devs_ne_empty⟩, .both⟩]⟩]
  groups := [⟨"devs", .ofList ["bob"]⟩]
  unreserved := by decide
  sectionsDistinct := by decide
  groupsDistinct := by decide

/-- A policy that lets carol read by an entry for a group. -/
def byGroup : Document where
  sections := [⟨"repo:/a", []⟩, ⟨"/a", [⟨.group ⟨"devs", devs_ne_empty⟩, .only .read⟩]⟩]
  groups := [⟨"devs", .ofList ["bob", "carol"]⟩]
  unreserved := by decide
  sectionsDistinct := by decide
  groupsDistinct := by decide

/-- The two policies grant carol the same and decide alike, though they share no entry. -/
theorem byName_allows_eq_byGroup_allows :
    (∀ name, byName.grantsAt (.named "carol") name = byGroup.grantsAt (.named "carol") name) ∧
    byName.allows "repo" (some "/a") (.named "carol") .readRecursive =
      byGroup.allows "repo" (some "/a") (.named "carol") .readRecursive ∧
    byName.anonymousPart.allows "repo" (some "/a") .anonymous .read =
      byName.allows "repo" (some "/a") .anonymous .read := by
  have same : ∀ name,
      byName.grantsAt (.named "carol") name = byGroup.grantsAt (.named "carol") name := by
    intro name
    rw [grantsAt_eq_grantsUnder, grantsAt_eq_grantsUnder]
    simp [grantsUnder, grantsOf, applying, applies, byName, byGroup, groupMembers]
  exact ⟨same, allows_congr_of_same_grants.1 byName byGroup _ same _ _ _,
    allows_congr_of_same_grants.2 byName _ _ _⟩

/-! ## The sections elsewhere -/

/-- How the sections at one place of a document are changed when all names before and after are
such that they are not looked at. -/
inductive ChangesElsewhere (looked : String → Prop) : List Section → List Section → Prop
  | add (part : Section) (unseen : ¬ looked part.name) : ChangesElsewhere looked [] [part]
  | remove (part : Section) (unseen : ¬ looked part.name) : ChangesElsewhere looked [part] []
  | rename (name newName : String) (entries : List Entry) (unseen : ¬ looked name)
      (newUnseen : ¬ looked newName) :
      ChangesElsewhere looked [⟨name, entries⟩] [⟨newName, entries⟩]
  | rewrite (name : String) (entries newEntries : List Entry) (unseen : ¬ looked name) :
      ChangesElsewhere looked [⟨name, entries⟩] [⟨name, newEntries⟩]

/-- A name can matter in a repository when it begins with a slash, alone or behind the name of
the repository and a colon. -/
def IsOfRepository (repository name : String) : Prop :=
  "/".toList <+: name.toList ∨ (repository ++ ":/").toList <+: name.toList

variable {document} {looked : String → Prop}

theorem ChangesElsewhere.not_looked {old new : List Section}
    (changes : ChangesElsewhere looked old new) :
    ∀ name ∈ (old ++ new).map Section.name, ¬ looked name := by
  cases changes with
  | add part unseen => simpa using unseen
  | remove part unseen => simpa using unseen
  | rename name newName entries unseen newUnseen => simpa using And.intro unseen newUnseen
  | rewrite name entries newEntries unseen => simpa using unseen

theorem EditedBy.grantsAt_eq {edited : Document}
    (edit : document.EditedBy (ChangesElsewhere looked) edited) (identity : Identity)
    {name : String} (isLooked : looked name) :
    edited.grantsAt identity name = document.grantsAt identity name := by
  rcases edit.exists_grantsAt_eq identity name with
    ⟨old, new, changes, before, after, source, result⟩
  have absent : name ∉ (old ++ new).map Section.name := by
    intro isName
    exact changes.not_looked name isName isLooked
  rw [List.map_append, List.mem_append, not_or] at absent
  rcases absent with ⟨notOld, notNew⟩
  rw [source, result, grantsUnder_eq_nil document identity notOld,
    grantsUnder_eq_nil document identity notNew]

theorem grantsAt_eq_of_changed_elsewhere {changed : Document}
    (changes : Relation.ReflTransGen (EditedBy (ChangesElsewhere looked)) document changed)
    (identity : Identity) {name : String} (isLooked : looked name) :
    changed.grantsAt identity name = document.grantsAt identity name := by
  induction changes with
  | refl => rfl
  | tail _ edit inductionHypothesis =>
      rw [edit.grantsAt_eq identity isLooked, inductionHypothesis]

theorem slash_prefix_spelling (segments : List String) :
    "/".toList <+: (Path.spelling segments).toList := by
  rw [Path.spelling, String.toList_append]
  exact List.prefix_append _ _

/-- All names that are looked at for a request can matter in the repository. -/
theorem IsLookedAt.isOfRepository {repository : String} {path : Path} {kind : AccessKind}
    {name : String} (lookedAt : IsLookedAt repository path kind name) :
    IsOfRepository repository name := by
  have behind : ∀ segments, (repository ++ ":/").toList <+:
      (repository ++ ":" ++ Path.spelling segments).toList := by
    intro segments
    simpa [List.append_assoc] using slash_prefix_spelling segments
  rcases lookedAt with isCandidate | ⟨_, qualified | bare⟩
  · rcases List.mem_flatMap.1 isCandidate with ⟨level, isLevel, isName⟩
    rcases List.mem_map.1 isLevel with ⟨segments, _, rfl⟩
    simp only [List.mem_cons, List.not_mem_nil, or_false] at isName
    rcases isName with rfl | rfl
    · exact Or.inr (behind segments)
    · exact Or.inl (slash_prefix_spelling segments)
  · exact Or.inr ((behind path.segments).trans qualified)
  · exact Or.inl ((slash_prefix_spelling path.segments).trans bare)

/-- A decision about a path does not change when sections are added, removed, renamed or
rewritten whose names are not looked at for it.  So no section matters in a repository whose
name begins neither with a slash nor with the repository, a colon and a slash. -/
theorem allows_eq_of_changed_elsewhere :
    (∀ (document changed : Document) (repository text : String) (kind : AccessKind),
      Relation.ReflTransGen
          (EditedBy (ChangesElsewhere (IsLookedAt repository (.ofText text) kind)))
          document changed →
        ∀ identity, changed.allows repository (some text) identity kind =
          document.allows repository (some text) identity kind) ∧
    ∀ (document changed : Document) (repository : String),
      Relation.ReflTransGen (EditedBy (ChangesElsewhere (IsOfRepository repository)))
          document changed →
        ∀ path? identity kind, changed.allows repository path? identity kind =
          document.allows repository path? identity kind := by
  constructor
  · intro document changed repository text kind changes identity
    apply allows_congr_of_grantsAt_eq
    intro name lookedAt
    exact grantsAt_eq_of_changed_elsewhere changes identity lookedAt
  · intro document changed repository changes path? identity kind
    cases path? with
    | none => rfl
    | some text =>
        apply allows_congr_of_grantsAt_eq
        intro name lookedAt
        exact grantsAt_eq_of_changed_elsewhere changes identity lookedAt.isOfRepository

/-- A policy for two repositories, one closed to all. -/
def twoRepositories : Document where
  sections := [⟨"r:/a", [⟨.anyone, .only .read⟩]⟩, ⟨"s:/a", [⟨.anyone, .none⟩]⟩]
  groups := []
  unreserved := by decide
  sectionsDistinct := by decide
  groupsDistinct := List.nodup_nil

/-- The same policy with the closed section under a name that only looks like one of the first
repository. -/
def renamedElsewhere : Document where
  sections := [⟨"r:/a", [⟨.anyone, .only .read⟩]⟩, ⟨"r:a", [⟨.anyone, .none⟩]⟩]
  groups := []
  unreserved := by decide
  sectionsDistinct := by decide
  groupsDistinct := List.nodup_nil

/-- And with one more for a repository whose name is longer. -/
def enlargedElsewhere : Document where
  sections :=
    [⟨"rr:/a/b", [⟨.anyone, .none⟩]⟩, ⟨"r:/a", [⟨.anyone, .only .read⟩]⟩,
      ⟨"r:a", [⟨.anyone, .none⟩]⟩]
  groups := []
  unreserved := by decide
  sectionsDistinct := by decide
  groupsDistinct := List.nodup_nil

theorem changes_twoRepositories {looked : String → Prop} (old : ¬ looked "s:/a")
    (new : ¬ looked "r:a") (added : ¬ looked "rr:/a/b") :
    Relation.ReflTransGen (EditedBy (ChangesElsewhere looked)) twoRepositories
      enlargedElsewhere := by
  have renamed : twoRepositories.EditedBy (ChangesElsewhere looked) renamedElsewhere :=
    ⟨rfl, [⟨"r:/a", [⟨.anyone, .only .read⟩]⟩], _, _, [],
      .rename "s:/a" "r:a" [⟨.anyone, .none⟩] old new, rfl, rfl⟩
  have enlarged : renamedElsewhere.EditedBy (ChangesElsewhere looked) enlargedElsewhere :=
    ⟨rfl, [], _, _, _, .add ⟨"rr:/a/b", [⟨.anyone, .none⟩]⟩ added, rfl, rfl⟩
  exact (Relation.ReflTransGen.single renamed).tail enlarged

/-- Alice's access to the first repository is the same after the two changes. -/
theorem enlargedElsewhere_allows_eq :
    (Relation.ReflTransGen
        (EditedBy (ChangesElsewhere (IsLookedAt "r" (.ofText "/a") .readRecursive)))
        twoRepositories enlargedElsewhere ∧
      Relation.ReflTransGen (EditedBy (ChangesElsewhere (IsOfRepository "r")))
        twoRepositories enlargedElsewhere) ∧
    enlargedElsewhere.allows "r" (some "/a") (.named "alice") .readRecursive =
      twoRepositories.allows "r" (some "/a") (.named "alice") .readRecursive ∧
    enlargedElsewhere.allows "r" (some "a/b") (.named "alice") .write =
      twoRepositories.allows "r" (some "a/b") (.named "alice") .write := by
  have notLookedAt : ∀ name ∈ ["s:/a", "r:a", "rr:/a/b"],
      ¬ IsLookedAt "r" (.ofText "/a") .readRecursive name := by
    unfold IsLookedAt IsNameBelow
    decide +kernel
  have notOfRepository : ∀ name ∈ ["s:/a", "r:a", "rr:/a/b"], ¬ IsOfRepository "r" name := by
    unfold IsOfRepository
    decide +kernel
  have elsewhere := changes_twoRepositories (notLookedAt _ (by simp)) (notLookedAt _ (by simp))
    (notLookedAt _ (by simp))
  have otherRepositories := changes_twoRepositories (notOfRepository _ (by simp))
    (notOfRepository _ (by simp)) (notOfRepository _ (by simp))
  exact ⟨⟨elsewhere, otherRepositories⟩, allows_eq_of_changed_elsewhere.1 _ _ _ _ _ elsewhere _,
    allows_eq_of_changed_elsewhere.2 _ _ _ otherRepositories _ _ _⟩

end Document

end PathPolicy
