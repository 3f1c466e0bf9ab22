import PathPolicy.Proofs.Decision.Grants

/-!
# The meaning of a policy

What a policy permits, said without the way in which it is found out.  The nearest
section that has an entry for the identity decides alone, and a grant in it outranks
every denial.  Where no section has an entry nothing is permitted, and an unknown path
is left to others.  The main statement is that decisions follow this meaning.
-/

namespace PathPolicy.Document

variable (document : Document)

/-- Which entries are for an identity: those for anyone, those for the user of its name,
and those for a group in which its name is listed.  An identity without a name belongs
to no group, and a group that is not defined lists no one. -/
inductive IsFor : Entry → Identity → Prop
  | anyone (grants : Access) (identity : Identity) : IsFor ⟨.anyone, grants⟩ identity
  | user (name : Name) (grants : Access) : IsFor ⟨.user name, grants⟩ (.named name.val)
  | member (name : Name) (grants : Access) (group : Group) (user : String)
      (defined : group ∈ document.groups) (called : group.name = name.val)
      (listed : user ∈ group.members) : IsFor ⟨.group name, grants⟩ (.named user)

/-- A section speaks to an identity when one of its entries is for it. -/
def SpeaksTo (identity : Identity) (part : Section) : Prop :=
  ∃ entry ∈ part.entries, document.IsFor entry identity

/-- A section grants a permission when one of its entries for the identity does. -/
def GrantsTo (identity : Identity) (permission : Permission) (part : Section) : Prop :=
  ∃ entry ∈ part.entries, document.IsFor entry identity ∧ entry.grants.has permission = true

/-- A section decides about a path when it speaks to the identity and none does that has
an earlier name among the candidates. -/
def DecidesOn (repository : String) (path : Path) (identity : Identity) (part : Section) : Prop :=
  part ∈ document.sections ∧ document.SpeaksTo identity part ∧
    ∃ before after, candidates repository path = before ++ part.name :: after ∧
      ∀ other ∈ document.sections, other.name ∈ before → ¬ document.SpeaksTo identity other

/-- What a document permits an identity in a repository. -/
inductive Permits (repository : String) (identity : Identity) : Option String → AccessKind → Prop
  | pathUnknown (kind : AccessKind) : Permits repository identity none kind
  | read (text : String) (part : Section)
      (decides : document.DecidesOn repository (.ofText text) identity part)
      (grants : document.GrantsTo identity .read part) : Permits repository identity (some text) .read
  | write (text : String) (part : Section)
      (decides : document.DecidesOn repository (.ofText text) identity part)
      (grants : document.GrantsTo identity .write part) :
      Permits repository identity (some text) .write
  | readRecursive (text : String) (here : Permits repository identity (some text) .read)
      (below : ∀ part ∈ document.sections, IsNameBelow repository (.ofText text) part.name →
        document.SpeaksTo identity part → document.GrantsTo identity .read part) :
      Permits repository identity (some text) .readRecursive

variable {document}

/-! ## Entries and sections -/

/-- The entries that apply are those for the identity. -/
theorem applies_eq_true_iff {entry : Entry} {identity : Identity} :
    document.applies entry identity = true ↔ document.IsFor entry identity := by
  constructor
  · intro forMe
    obtain ⟨principal, grants⟩ := entry
    cases principal with
    | anyone => exact .anyone grants identity
    | user name =>
        cases identity with
        | anonymous => simp [applies] at forMe
        | named user =>
            have same : name.val = user := by simpa [applies] using forMe
            exact same ▸ .user name grants
    | group name =>
        cases identity with
        | anonymous => simp [applies] at forMe
        | named user =>
            have belongs : user ∈ document.groupMembers name.val := by simpa [applies] using forMe
            obtain ⟨group, defined, called, listed⟩ := mem_groupMembers_iff.1 belongs
            exact .member name grants group user defined called listed
  · intro forMe
    cases forMe with
    | anyone => rfl
    | user => simp [applies]
    | member name grants group user defined called listed =>
        simpa [applies] using mem_groupMembers_iff.2 ⟨group, defined, called, listed⟩

theorem grantsOf_ne_nil_iff {identity : Identity} {part : Section} :
    document.grantsOf identity part.entries ≠ [] ↔ document.SpeaksTo identity part := by
  simp [grantsOf, applying, SpeaksTo, applies_eq_true_iff]

theorem anyGrants_grantsOf_iff {identity : Identity} {permission : Permission} {part : Section} :
    anyGrants permission (document.grantsOf identity part.entries) = true ↔
      document.GrantsTo identity permission part := by
  simp [anyGrants, grantsOf, applying, GrantsTo, applies_eq_true_iff]

theorem denies_iff {identity : Identity} {permission : Permission} {part : Section} :
    document.Denies identity permission part ↔
      document.SpeaksTo identity part ∧ ¬ document.GrantsTo identity permission part := by
  rw [Denies, grantsOf_ne_nil_iff, ← anyGrants_grantsOf_iff, Bool.not_eq_true]

/-- Under a name something is granted when a section is called so and speaks. -/
theorem grantsAt_ne_nil_iff {identity : Identity} {name : String} :
    document.grantsAt identity name ≠ [] ↔
      ∃ part ∈ document.sections, part.name = name ∧ document.SpeaksTo identity part := by
  constructor
  · intro occupied
    rw [grantsAt] at occupied
    split at occupied
    · rename_i part found
      obtain ⟨member, called⟩ := section?_eq_some_iff.1 found
      exact ⟨part, member, called, grantsOf_ne_nil_iff.1 occupied⟩
    · exact absurd rfl occupied
  · rintro ⟨part, member, rfl, speaks⟩
    rw [grantsAt_of_mem identity member]
    exact grantsOf_ne_nil_iff.2 speaks

/-! ## The deciding section -/

/-- The first candidate under which something is granted is the name of the section that
decides. -/
theorem firstSpeaking?_candidates_eq_some_iff {repository : String} {path : Path}
    {identity : Identity} {name : String} :
    document.firstSpeaking? identity (candidates repository path) = some name ↔
      ∃ part, document.DecidesOn repository path identity part ∧ part.name = name := by
  rw [firstSpeaking?, List.find?_eq_some_iff_append]
  simp only [Bool.not_eq_true', List.isEmpty_eq_false_iff, Bool.not_not, List.isEmpty_iff]
  constructor
  · rintro ⟨occupied, before, after, split, silentBefore⟩
    obtain ⟨part, member, rfl, speaks⟩ := grantsAt_ne_nil_iff.1 occupied
    refine ⟨part, ⟨member, speaks, before, after, split, ?_⟩, rfl⟩
    intro other otherMember earlier otherSpeaks
    exact grantsAt_ne_nil_iff.2 ⟨other, otherMember, rfl, otherSpeaks⟩
      (silentBefore other.name earlier)
  · rintro ⟨part, ⟨member, speaks, before, after, split, silentBefore⟩, rfl⟩
    refine ⟨grantsAt_ne_nil_iff.2 ⟨part, member, rfl, speaks⟩, before, after, split, ?_⟩
    intro name earlier
    by_contra occupied
    obtain ⟨other, otherMember, rfl, otherSpeaks⟩ := grantsAt_ne_nil_iff.1 occupied
    exact silentBefore other otherMember earlier otherSpeaks

/-- No two sections decide about a path. -/
theorem DecidesOn.unique {repository : String} {path : Path} {identity : Identity}
    {part other : Section} (decides : document.DecidesOn repository path identity part)
    (otherDecides : document.DecidesOn repository path identity other) : part = other := by
  have first := firstSpeaking?_candidates_eq_some_iff.2 ⟨part, decides, rfl⟩
  have otherFirst := firstSpeaking?_candidates_eq_some_iff.2 ⟨other, otherDecides, rfl⟩
  have sameName : part.name = other.name := Option.some.inj (first.symm.trans otherFirst)
  have found := section?_name_of_mem decides.1
  rw [sameName, section?_name_of_mem otherDecides.1] at found
  exact (Option.some.inj found).symm

theorem exists_firstSpeaking?_and_anyGrants_iff {repository : String} {path : Path}
    {identity : Identity} {permission : Permission} :
    (∃ name, document.firstSpeaking? identity (candidates repository path) = some name ∧
        anyGrants permission (document.grantsAt identity name) = true) ↔
      ∃ part, document.DecidesOn repository path identity part ∧
        document.GrantsTo identity permission part := by
  constructor
  · rintro ⟨name, first, granted⟩
    obtain ⟨part, decides, rfl⟩ := firstSpeaking?_candidates_eq_some_iff.1 first
    rw [grantsAt_of_mem identity decides.1] at granted
    exact ⟨part, decides, anyGrants_grantsOf_iff.1 granted⟩
  · rintro ⟨part, decides, grants⟩
    refine ⟨part.name, firstSpeaking?_candidates_eq_some_iff.2 ⟨part, decides, rfl⟩, ?_⟩
    rw [grantsAt_of_mem identity decides.1]
    exact anyGrants_grantsOf_iff.2 grants

theorem allows_some_iff_grantsTo {repository text : String} {identity : Identity}
    {kind : AccessKind} :
    document.allows repository (some text) identity kind = true ↔
      (∃ part, document.DecidesOn repository (.ofText text) identity part ∧
        document.GrantsTo identity kind.permission part) ∧
      (kind = .readRecursive → ∀ part ∈ document.sections,
        IsNameBelow repository (.ofText text) part.name → document.SpeaksTo identity part →
          document.GrantsTo identity .read part) := by
  rw [allows_some_iff, exists_firstSpeaking?_and_anyGrants_iff]
  simp only [denies_iff, not_and, not_not]

/-- A document allows exactly what it permits. -/
theorem allows_eq_true_iff_permits (document : Document) (repository : String)
    (path? : Option String) (identity : Identity) (kind : AccessKind) :
    document.allows repository path? identity kind = true ↔
      document.Permits repository identity path? kind := by
  cases path? with
  | none =>
      constructor
      · intro _
        exact .pathUnknown kind
      · intro _
        rfl
  | some text =>
      rw [allows_some_iff_grantsTo]
      constructor
      · rintro ⟨⟨part, decides, grants⟩, below⟩
        cases kind with
        | read => exact .read text part decides grants
        | write => exact .write text part decides grants
        | readRecursive =>
            exact .readRecursive text (.read text part decides grants) (below rfl)
      · intro permitted
        cases permitted with
        | read _ part decides grants => exact ⟨⟨part, decides, grants⟩, by simp⟩
        | write _ part decides grants => exact ⟨⟨part, decides, grants⟩, by simp⟩
        | readRecursive _ here below =>
            cases here with
            | read _ part decides grants => exact ⟨⟨part, decides, grants⟩, fun _ => below⟩

end PathPolicy.Document
