import PathPolicy.Decision.Decide
import PathPolicy.Proofs.Document.Names
import PathPolicy.Proofs.Path.Levels

/-!
# Decisions from grants

What a section says to an identity is settled by the list of what its applying entries
grant: the section is silent when the list is empty, and otherwise allows a permission
that is in one of the masks.  A request is settled by these lists and by the names of
the sections, and this module says how: for one section, for the way up to the root and
for the search below a path.
-/

namespace PathPolicy

namespace Verdict

/-- Collecting entries adds up what they grant. -/
theorem has_allow_foldl (entries : List Entry) (verdict : Verdict) (permission : Permission) :
    (entries.foldl withEntry verdict).allow.has permission =
      (verdict.allow.has permission || entries.any fun entry => entry.grants.has permission) := by
  induction entries generalizing verdict with
  | nil => simp
  | cons entry rest inductionHypothesis =>
      rw [List.foldl_cons, inductionHypothesis, List.any_cons, ← Bool.or_assoc]
      simp [withEntry]

/-- Collecting entries adds up what they do not grant. -/
theorem has_deny_foldl (entries : List Entry) (verdict : Verdict) (permission : Permission) :
    (entries.foldl withEntry verdict).deny.has permission =
      (verdict.deny.has permission || entries.any fun entry => !entry.grants.has permission) := by
  induction entries generalizing verdict with
  | nil => simp
  | cons entry rest inductionHypothesis =>
      rw [List.foldl_cons, inductionHypothesis, List.any_cons, ← Bool.or_assoc]
      simp [withEntry, Entry.denies]

theorem hasDecision_foldl_silent (entries : List Entry) (permission : Permission) :
    (entries.foldl withEntry silent).hasDecision (.only permission) = !entries.isEmpty := by
  rw [hasDecision, Access.meets_only, Access.has_union, has_allow_foldl, has_deny_foldl]
  cases entries with
  | nil => simp [silent]
  | cons entry rest => cases granted : entry.grants.has permission <;> simp [granted]

theorem allows_foldl_silent (entries : List Entry) (permission : Permission) :
    (entries.foldl withEntry silent).allows (.only permission) =
      (entries.isEmpty || entries.any fun entry => entry.grants.has permission) := by
  rw [allows, Access.meets_only, Access.meets_only, has_allow_foldl, has_deny_foldl]
  cases entries with
  | nil => simp [silent]
  | cons entry rest =>
      cases granted : entry.grants.has permission <;> simp [silent, granted]

end Verdict

namespace Document

open Traced

variable (document : Document) (identity : Identity) (permission : Permission)

/-- What the entries that apply to an identity grant, in their order. -/
def grantsOf (entries : List Entry) : List Access :=
  (document.applying entries identity).map Entry.grants

@[simp]
theorem grantsOf_nil : document.grantsOf identity [] = [] :=
  rfl

theorem grantsOf_cons (entry : Entry) (rest : List Entry) :
    document.grantsOf identity (entry :: rest) =
      (if document.applies entry identity then [entry.grants] else []) ++
        document.grantsOf identity rest := by
  by_cases forMe : document.applies entry identity <;> simp [grantsOf, applying, forMe]

theorem grantsOf_append (before after : List Entry) :
    document.grantsOf identity (before ++ after) =
      document.grantsOf identity before ++ document.grantsOf identity after := by
  simp [grantsOf, applying]

/-- What the section of a name grants to an identity; a section that is missing grants
nothing. -/
def grantsAt (name : String) : List Access :=
  match document.section? name with
  | some part => document.grantsOf identity part.entries
  | none => []

/-- Whether one of some masks has a permission. -/
def anyGrants (grants : List Access) : Bool :=
  grants.any fun access => access.has permission

theorem grantsAt_of_mem {document : Document} {part : Section}
    (member : part ∈ document.sections) :
    document.grantsAt identity part.name = document.grantsOf identity part.entries := by
  rw [grantsAt, section?_name_of_mem member]

/-! ## One section -/

theorem hasDecision_evaluate (part : Section) :
    (document.evaluate (some part) identity).value.hasDecision (.only permission) =
      !(document.grantsOf identity part.entries).isEmpty := by
  rw [evaluate, value_collect, Verdict.hasDecision_foldl_silent]
  simp [grantsOf]

theorem allows_evaluate (part : Section) :
    (document.evaluate (some part) identity).value.allows (.only permission) =
      ((document.grantsOf identity part.entries).isEmpty ||
        anyGrants permission (document.grantsOf identity part.entries)) := by
  rw [evaluate, value_collect, Verdict.allows_foldl_silent]
  simp [grantsOf, anyGrants, List.any_map, Function.comp_def]

theorem hasDecision_evaluate_section? (name : String) :
    (document.evaluate (document.section? name) identity).value.hasDecision (.only permission) =
      !(document.grantsAt identity name).isEmpty := by
  rw [grantsAt]
  cases document.section? name with
  | none => cases permission <;> rfl
  | some part => exact hasDecision_evaluate document identity permission part

theorem allows_evaluate_section? (name : String) :
    (document.evaluate (document.section? name) identity).value.allows (.only permission) =
      ((document.grantsAt identity name).isEmpty ||
        anyGrants permission (document.grantsAt identity name)) := by
  rw [grantsAt]
  cases document.section? name with
  | none => cases permission <;> rfl
  | some part => exact allows_evaluate document identity permission part

/-! ## The way up -/

/-- The names of the sections for a path and everything above it: the deepest level comes
first, and at each level the name for the repository comes before the name for all. -/
def candidates (repository : String) (path : Path) : List String :=
  path.levels.flatMap fun level => [repository ++ ":" ++ level, level]

/-- The first of some names under which a section has a word on an identity. -/
def firstSpeaking? (names : List String) : Option String :=
  names.find? fun name => !(document.grantsAt identity name).isEmpty

/-- What the section of a name decides, if there is one that has a word. -/
def resolutionOf (name? : Option String) : Resolution :=
  match name? with
  | some name => .decided name (anyGrants permission (document.grantsAt identity name))
  | none => .silent

theorem value_firstDecision (names : List String) :
    (document.firstDecision identity (.only permission) names).value =
      document.resolutionOf identity permission (document.firstSpeaking? identity names) := by
  induction names with
  | nil => rfl
  | cons name rest inductionHypothesis =>
      rw [firstDecision, value_bind, hasDecision_evaluate_section?, firstSpeaking?,
        List.find?_cons]
      cases spoken : (document.grantsAt identity name).isEmpty with
      | true => simpa [firstSpeaking?] using inductionHypothesis
      | false => simp [resolutionOf, allows_evaluate_section?, spoken]

theorem value_climb (repository : String) (paths : List Path) :
    (document.climb repository identity (.only permission) paths).value =
      document.resolutionOf identity permission
        (document.firstSpeaking? identity
          ((paths.map Path.text).flatMap (namesAt repository))) := by
  induction paths with
  | nil => rfl
  | cons level above inductionHypothesis =>
      rw [List.map_cons, List.flatMap_cons, firstSpeaking?, List.find?_append, climb, value_bind,
        resolveAt, value_firstDecision, firstSpeaking?]
      cases (namesAt repository level.text).find? fun name =>
          !(document.grantsAt identity name).isEmpty with
      | none => exact inductionHypothesis
      | some name => rfl

/-- The nearest section that has a word on an identity decides about a path. -/
theorem value_resolve (repository text : String) :
    (document.resolve repository (some text) identity (.only permission)).value =
      document.resolutionOf identity permission
        (document.firstSpeaking? identity (candidates repository (.ofText text))) := by
  have climbed := value_climb document identity permission repository (Path.ofText text).lineage
  rw [Path.map_text_lineage] at climbed
  exact climbed

/-! ## The search below -/

/-- A name lies below a path for a repository when it begins with the spelling of the
path, alone or behind the repository. -/
def IsNameBelow (repository : String) (path : Path) (name : String) : Prop :=
  (repository ++ ":" ++ path.text).toList <+: name.toList ∨ path.text.toList <+: name.toList

/-- A section denies a permission when it has a word and grants the permission nowhere. -/
def Denies (part : Section) : Prop :=
  document.grantsOf identity part.entries ≠ [] ∧
    anyGrants permission (document.grantsOf identity part.entries) = false

theorem value_firstDenial_eq_none_iff (parts : List Section) :
    (document.firstDenial identity (.only permission) parts).value = none ↔
      ∀ part ∈ parts, ¬ document.Denies identity permission part := by
  induction parts with
  | nil => simp [firstDenial]
  | cons part rest inductionHypothesis =>
      rw [firstDenial, value_bind, allows_evaluate, List.forall_mem_cons, Denies]
      by_cases silent : document.grantsOf identity part.entries = []
      · simpa [silent] using inductionHypothesis
      · cases granted : anyGrants permission (document.grantsOf identity part.entries) with
        | true => simpa [silent, granted] using inductionHypothesis
        | false => simp [silent]

/-- The sections below a path are those whose names lie below it. -/
theorem mem_sectionsBelow_iff {document : Document} {repository : String} {path : Path}
    {part : Section} :
    part ∈ document.sectionsBelow repository path ↔
      part ∈ document.sections ∧ IsNameBelow repository path part.name := by
  simp only [sectionsBelow, sectionsWithPrefix, List.mem_append, List.mem_filter,
    Section.hasPrefix, List.isPrefixOf_iff_prefix, IsNameBelow, qualifiedName]
  exact and_or_left.symm

/-- What the search below a path reports is what it finds. -/
theorem value_denyingSection (repository text : String) (access : Access) :
    (document.denyingSection repository text identity access).value =
      (document.firstDenial identity access
        (document.sectionsBelow repository (.ofText text))).value := by
  rw [denyingSection, value_bind]
  cases (document.firstDenial identity access
    (document.sectionsBelow repository (.ofText text))).value <;> rfl

theorem value_denyingSection_eq_none_iff (repository text : String) :
    (document.denyingSection repository text identity (.only permission)).value = none ↔
      ∀ part ∈ document.sections, IsNameBelow repository (.ofText text) part.name →
        ¬ document.Denies identity permission part := by
  rw [value_denyingSection, value_firstDenial_eq_none_iff]
  simp only [mem_sectionsBelow_iff, and_imp]

theorem value_anyBelowDenies_eq_true_iff (repository text : String) :
    (document.anyBelowDenies repository text identity (.only permission)).value = true ↔
      ∃ part ∈ document.sections, IsNameBelow repository (.ofText text) part.name ∧
        document.Denies identity permission part := by
  rw [anyBelowDenies, value_map, Option.isSome_iff_ne_none, ne_eq,
    value_denyingSection_eq_none_iff]
  simp only [not_forall, not_not, exists_prop]

/-! ## A request -/

/-- A request for a path is allowed when the nearest section that has a word grants what is
needed and, to read recursively, no section below the path denies reading. -/
theorem allows_some_iff (repository text : String) (kind : AccessKind) :
    document.allows repository (some text) identity kind = true ↔
      (∃ name, document.firstSpeaking? identity (candidates repository (.ofText text)) = some name ∧
        anyGrants kind.permission (document.grantsAt identity name) = true) ∧
      (kind = .readRecursive → ∀ part ∈ document.sections,
        IsNameBelow repository (.ofText text) part.name → ¬ document.Denies identity .read part) := by
  have decided : (document.resolve repository (some text) identity kind.required).value.isAllowed =
      true ↔ ∃ name, document.firstSpeaking? identity (candidates repository (.ofText text)) =
        some name ∧ anyGrants kind.permission (document.grantsAt identity name) = true := by
    rw [AccessKind.required, value_resolve]
    cases document.firstSpeaking? identity (candidates repository (.ofText text)) <;>
      simp [resolutionOf, Resolution.isAllowed]
  rw [← decided, allows, decideTraced, value_bind]
  cases allowed : (document.resolve repository (some text) identity kind.required).value.isAllowed
  with
  | false => cases kind <;> simp
  | true =>
      cases kind with
      | read => simp
      | write => simp
      | readRecursive =>
          have vetoed := value_anyBelowDenies_eq_true_iff document identity .read repository text
          simp only [AccessKind.required, AccessKind.permission, value_map, Bool.not_eq_true',
            ← Bool.not_eq_true, vetoed]
          simp

end Document

end PathPolicy
