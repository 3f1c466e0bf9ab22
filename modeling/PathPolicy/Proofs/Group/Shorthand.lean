import PathPolicy.Proofs.Decision.Standing
import PathPolicy.Proofs.PolicyText.Tokens

/-!
# Groups as shorthand

An entry for a group says what one entry for each of its members would say.  The members of a
group that was read have names, so these entries can be written; with them in the place of the
group's entry the definitions of the groups can go, and every answer stays the same.  A member
that is spelled like a principal, as `@admins` or `*`, is a user of that very name.
-/

namespace PathPolicy.Document

/-- Every member of a group has a name. -/
def HasNamedMembers (document : Document) : Prop :=
  ∀ group ∈ document.groups, ∀ member ∈ group.members, member ≠ ""

/-- A document that was read, from a policy text or from the data of a snapshot. -/
inductive IsRead (document : Document) : Prop
  | text (source text : String) (parsed : (PolicyText.parse source text).value = .ok document)
  | data (data : Data) (read : (ofData data).value = .ok document)

variable {document : Document}

theorem HasNamedMembers.ne_empty (named : document.HasNamedMembers) {group member : String}
    (listed : member ∈ (document.groupMembers group).toList) : member ≠ "" := by
  rcases mem_groupMembers_iff.1 listed with ⟨definition, isGroup, _, isMember⟩
  exact named definition isGroup member isMember

/-- Documents that were read have no member without a name. -/
theorem IsRead.hasNamedMembers (read : document.IsRead) : document.HasNamedMembers := by
  have spelledOut : document.IsSpelledOut := by
    cases read with
    | text source text parsed => exact PolicyText.isSpelledOut_of_parse parsed
    | data data read => exact isSpelledOut_of_ofData read
  intro group isGroup member isMember
  exact (spelledOut.members group isGroup member isMember).1

/-! ## Documents without groups -/

/-- The members of a group, by their names. -/
def membersByName (named : document.HasNamedMembers) (group : String) : List Name :=
  (document.groupMembers group).toList.attachWith (· ≠ "") fun _ listed => named.ne_empty listed

/-- The entries for single users that say what an entry says: one for each member in the place
of an entry for a group, and the entry itself where it is for no group. -/
def ungroupedEntries (named : document.HasNamedMembers) (entry : Entry) : List Entry :=
  match entry.principal with
  | .group group => (membersByName named group.val).map fun member => ⟨.user member, entry.grants⟩
  | _ => [entry]

/-- A section with no entry for a group. -/
def ungroupedSection (named : document.HasNamedMembers) (part : Section) : Section where
  name := part.name
  entries := part.entries.flatMap (ungroupedEntries named)

/-- The document with the members of the groups in the place of the groups, and without a
definition of a group. -/
def ungrouped (document : Document) (named : document.HasNamedMembers) : Document where
  sections := document.sections.map (ungroupedSection named)
  groups := []
  unreserved := by
    intro part member
    rcases List.mem_map.1 member with ⟨original, originalMember, rfl⟩
    exact document.unreserved original originalMember
  sectionsDistinct := by
    rw [List.map_map]
    exact document.sectionsDistinct
  groupsDistinct := List.nodup_nil

/-! ## What they grant -/

theorem map_val_membersByName (named : document.HasNamedMembers) (group : String) :
    (membersByName named group).map Subtype.val = (document.groupMembers group).toList :=
  List.attachWith_map_subtype_val _

/-- Of the entries for different users no more than one is for a name. -/
theorem grantsOf_users (document : Document) {users : List Name}
    (distinct : (users.map Subtype.val).Nodup) (name : String) (grants : Access) :
    document.grantsOf (.named name) (users.map fun user => ⟨.user user, grants⟩) =
      if name ∈ users.map Subtype.val then [grants] else [] := by
  induction users with
  | nil => rfl
  | cons user rest inductionHypothesis =>
      rw [List.map_cons, List.nodup_cons] at distinct
      rcases distinct with ⟨differs, restDistinct⟩
      rw [List.map_cons, List.map_cons, grantsOf_cons, inductionHypothesis restDistinct]
      by_cases same : user.val = name
      · -- A later entry for the name would be for the same user again.
        subst same
        rw [if_neg differs, if_pos List.mem_cons_self, if_pos (by simp [applies])]
        rfl
      · simp [applies, same, Ne.symm same]

theorem grantsOf_users_anonymous (document : Document) (users : List Name) (grants : Access) :
    document.grantsOf .anonymous (users.map fun user => ⟨.user user, grants⟩) = [] := by
  induction users with
  | nil => rfl
  | cons user rest inductionHypothesis =>
      rw [List.map_cons, grantsOf_cons, inductionHypothesis]
      rfl

/-- The entries for single users grant an identity what the entry grants in whose place they
are. -/
theorem grantsOf_ungroupedEntries (named : document.HasNamedMembers) (identity : Identity)
    (entry : Entry) :
    (document.ungrouped named).grantsOf identity (ungroupedEntries named entry) =
      document.grantsOf identity [entry] := by
  rcases entry with ⟨principal, grants⟩
  cases principal with
  | anyone => rfl
  | user user => cases identity <;> rfl
  | group group =>
      cases identity with
      | anonymous => exact grantsOf_users_anonymous _ _ grants
      | named name =>
          have distinct : ((membersByName named group.val).map Subtype.val).Nodup := by
            rw [map_val_membersByName]
            exact (document.groupMembers group.val).rising.imp String.ne_of_lt
          rw [ungroupedEntries, grantsOf_users _ distinct, map_val_membersByName, grantsOf_cons]
          simp [applies]

theorem grantsOf_flatMap_ungroupedEntries (named : document.HasNamedMembers) (identity : Identity)
    (entries : List Entry) :
    (document.ungrouped named).grantsOf identity (entries.flatMap (ungroupedEntries named)) =
      document.grantsOf identity entries := by
  induction entries with
  | nil => rfl
  | cons entry rest inductionHypothesis =>
      rw [List.flatMap_cons, grantsOf_append, grantsOf_ungroupedEntries, inductionHypothesis,
        ← grantsOf_append, List.singleton_append]

theorem grantsAt_ungrouped (named : document.HasNamedMembers) (identity : Identity)
    (name : String) :
    (document.ungrouped named).grantsAt identity name = document.grantsAt identity name := by
  have found : (document.ungrouped named).section? name =
      (document.section? name).map (ungroupedSection named) := List.find?_map
  rw [grantsAt, grantsAt, found]
  cases document.section? name with
  | none => rfl
  | some part => exact grantsOf_flatMap_ungroupedEntries named identity part.entries

/-- A document that was read can be written without its groups, each entry for a group giving
way to an entry for each member, and then answers every request as before. -/
theorem allows_ungrouped_of_isRead (read : document.IsRead) :
    ∃ named : document.HasNamedMembers, ∀ repository path? identity kind,
      (document.ungrouped named).allows repository path? identity kind =
        document.allows repository path? identity kind := by
  refine ⟨read.hasNamedMembers, ?_⟩
  intro repository path? identity kind
  cases path? with
  | none => rfl
  | some text =>
      apply allows_congr_of_grantsAt_eq
      intro name _
      exact grantsAt_ungrouped _ identity name

/-- A policy with groups that share a member and a group that lists the spelling of another. -/
def overlappingText : String :=
  "[groups]\nstaff = clerk, @board, *\nboard = clerk, teller\n" ++
    "[/a]\n@staff = r\n* =\n@board = w\n@guests = rw\n"

/-- The document of this text. -/
def overlapping : Document where
  sections := [⟨"/a", [⟨.group ⟨"staff", by decide⟩, .only .read⟩, ⟨.anyone, .none⟩,
    ⟨.group ⟨"board", by decide⟩, .only .write⟩, ⟨.group ⟨"guests", by decide⟩, .both⟩]⟩]
  groups := [⟨"staff", .ofList ["*", "@board", "clerk"]⟩, ⟨"board", .ofList ["clerk", "teller"]⟩]
  unreserved := by decide
  sectionsDistinct := by decide
  groupsDistinct := by decide

/-- The same policy without groups. -/
def overlappingByUser : Document where
  sections := [⟨"/a", [⟨.user ⟨"*", by decide⟩, .only .read⟩,
    ⟨.user ⟨"@board", by decide⟩, .only .read⟩, ⟨.user ⟨"clerk", by decide⟩, .only .read⟩,
    ⟨.anyone, .none⟩, ⟨.user ⟨"clerk", by decide⟩, .only .write⟩,
    ⟨.user ⟨"teller", by decide⟩, .only .write⟩]⟩]
  groups := []
  unreserved := by decide
  sectionsDistinct := by decide
  groupsDistinct := List.nodup_nil

theorem overlapping_isRead : overlapping.IsRead :=
  .text "policy" overlappingText (by decide +kernel)

/-- The teller is no member of the group that lists the spelling of his own, with the groups and
without them. -/
theorem overlappingByUser_allows_eq :
    overlapping.IsRead ∧
      overlappingByUser.allows "repo" (some "/a") (.named "teller") .read =
        overlapping.allows "repo" (some "/a") (.named "teller") .read := by
  rcases allows_ungrouped_of_isRead overlapping_isRead with ⟨named, same⟩
  have written : overlapping.ungrouped overlapping_isRead.hasNamedMembers = overlappingByUser := by
    decide +kernel
  rw [← written]
  exact ⟨overlapping_isRead, same "repo" (some "/a") (.named "teller") .read⟩

end PathPolicy.Document
