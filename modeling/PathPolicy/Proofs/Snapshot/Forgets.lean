import PathPolicy.Proofs.Decision.Meaning
import PathPolicy.Proofs.Snapshot.Loaded
import PathPolicy.Proofs.Snapshot.Resave

/-!
# What a snapshot forgets

A section can have several entries for one principal, and they are all looked at.  A
snapshot only has room for one of them, the last.  So a document that is saved and loaded
again can answer otherwise, but never allows more, and refuses what was allowed exactly when
a section that the answer rests on has no grant left.
-/

namespace PathPolicy

/-- A section keeps an entry when no later one is for the same principal. -/
def Section.Keeps (part : Section) (entry : Entry) : Prop :=
  ∃ before after, part.entries = before ++ entry :: after ∧
    ∀ later ∈ after, later.principal ≠ entry.principal

namespace Document

/-- A section still grants a permission when an entry for the identity that it keeps does. -/
def StillGrantsTo (document : Document) (identity : Identity) (permission : Permission)
    (part : Section) : Prop :=
  ∃ entry, part.Keeps entry ∧ document.IsFor entry identity ∧ entry.grants.has permission = true

/-- A grant is forgotten when a section that it rests on does not grant any more: the one
that decides, or to read recursively one below that speaks to the identity. -/
inductive Forgets (document : Document) (repository : String) (identity : Identity) :
    Option String → AccessKind → Prop
  | deciding (text : String) (kind : AccessKind) (part : Section)
      (decides : document.DecidesOn repository (.ofText text) identity part)
      (lost : ¬ document.StillGrantsTo identity kind.permission part) :
      Forgets document repository identity (some text) kind
  | below (text : String) (part : Section) (member : part ∈ document.sections)
      (nameBelow : IsNameBelow repository (.ofText text) part.name)
      (speaks : document.SpeaksTo identity part)
      (lost : ¬ document.StillGrantsTo identity .read part) :
      Forgets document repository identity (some text) .readRecursive

end Document

/-! ## Entries -/

namespace Section

theorem exists_keeps {part : Section} {entry : Entry} (member : entry ∈ part.entries) :
    ∃ kept, part.Keeps kept ∧ kept.principal = entry.principal := by
  obtain ⟨_, latest⟩ := Table.exists_isLatest
    (List.mem_map_of_mem (f := fun entry : Entry => (entry.principal, entry)) member)
  obtain ⟨before, kept, after, split, newest, samePrincipal, _⟩ := Table.isLatest_map_iff.1 latest
  rw [← samePrincipal] at newest
  exact ⟨kept, ⟨before, after, split, newest⟩, samePrincipal⟩

/-- A section that is spelled out is read again with the entries that it keeps. -/
theorem mem_resaved_entries_iff {part : Section}
    (spelledOut : ∀ entry ∈ part.entries, entry.principal.IsSpelledOut) {entry : Entry} :
    entry ∈ part.resaved.entries ↔ part.Keeps entry := by
  simp only [resaved, Entry.mem_ofTexts_iff, Prod.exists, Table.mem_ofPairs_iff,
    Table.isLatest_map_iff]
  constructor
  · rintro ⟨_, _, ⟨before, kept, after, split, newest, rfl, rfl⟩, read⟩
    have keptSpelled := spelledOut kept (by simp [split])
    rw [Entry.parse_text_permissions keptSpelled] at read
    cases read
    have keptLast : ∀ later ∈ after, later.principal ≠ entry.principal := by
      intro later member same
      exact newest later member (by rw [same])
    exact ⟨before, after, split, keptLast⟩
  · rintro ⟨before, after, split, newest⟩
    have entrySpelled := spelledOut entry (by simp [split])
    have newestText : ∀ later ∈ after, later.principal.text ≠ entry.principal.text := by
      intro later member sameText
      have laterSpelled := spelledOut later (by simp [split, member])
      exact newest later member (laterSpelled.eq_of_text_eq entrySpelled sameText)
    exact ⟨_, _, ⟨before, entry, after, split, newestText, rfl, rfl⟩,
      Entry.parse_text_permissions entrySpelled⟩

end Section

namespace Document

variable {document : Document} {identity : Identity}

theorem IsSpelledOut.mem_resaved_members_iff (spelledOut : document.IsSpelledOut) {group : Group}
    (member : group ∈ document.groups) {user : String} :
    user ∈ group.resaved.members ↔ user ∈ group.members := by
  rw [Group.resaved, Snapshot.mem_membersOf_iff]
  constructor
  · rintro ⟨_, original, listed, rfl⟩
    rw [(spelledOut.members group member original listed).2]
    exact listed
  · intro listed
    obtain ⟨named, trimmed⟩ := spelledOut.members group member user listed
    exact ⟨named, user, listed, trimmed⟩

/-- An entry is for the same identities as before. -/
theorem IsSpelledOut.isFor_resaved_iff (spelledOut : document.IsSpelledOut) {entry : Entry} :
    document.resaved.IsFor entry identity ↔ document.IsFor entry identity := by
  constructor
  · intro forMe
    cases forMe with
    | anyone grants => exact .anyone grants identity
    | user name grants => exact .user name grants
    | member name grants group user defined called listed =>
        obtain ⟨original, member, rfl⟩ := List.mem_map.1 defined
        exact .member name grants original user member called
          ((spelledOut.mem_resaved_members_iff member).1 listed)
  · intro forMe
    cases forMe with
    | anyone grants => exact .anyone grants identity
    | user name grants => exact .user name grants
    | member name grants group user defined called listed =>
        exact .member name grants group.resaved user (List.mem_map_of_mem defined) called
          ((spelledOut.mem_resaved_members_iff defined).2 listed)

/-- Entries for one principal are for the same identities. -/
theorem IsFor.of_principal_eq {entry other : Entry} (forMe : document.IsFor entry identity)
    (same : other.principal = entry.principal) : document.IsFor other identity := by
  obtain ⟨principal, grants⟩ := other
  cases forMe with
  | anyone =>
      cases same
      exact .anyone grants identity
  | user name =>
      cases same
      exact .user name grants
  | member name _ group user defined called listed =>
      cases same
      exact .member name grants group user defined called listed

/-- A section speaks to the same identities as before. -/
theorem IsSpelledOut.speaksTo_resaved_iff (spelledOut : document.IsSpelledOut) {part : Section}
    (member : part ∈ document.sections) :
    document.resaved.SpeaksTo identity part.resaved ↔ document.SpeaksTo identity part := by
  constructor
  · rintro ⟨entry, listed, forMe⟩
    obtain ⟨before, after, split, _⟩ :=
      (Section.mem_resaved_entries_iff (spelledOut.principals part member)).1 listed
    exact ⟨entry, by simp [split], spelledOut.isFor_resaved_iff.1 forMe⟩
  · rintro ⟨entry, listed, forMe⟩
    obtain ⟨kept, keeps, samePrincipal⟩ := Section.exists_keeps listed
    have keptAgain := (Section.mem_resaved_entries_iff (spelledOut.principals part member)).2 keeps
    have keptForMe := spelledOut.isFor_resaved_iff.2 (forMe.of_principal_eq samePrincipal)
    exact ⟨kept, keptAgain, keptForMe⟩

theorem IsSpelledOut.grantsTo_resaved_iff (spelledOut : document.IsSpelledOut) {part : Section}
    (member : part ∈ document.sections) {permission : Permission} :
    document.resaved.GrantsTo identity permission part.resaved ↔
      document.StillGrantsTo identity permission part := by
  simp only [GrantsTo, StillGrantsTo, spelledOut.isFor_resaved_iff,
    Section.mem_resaved_entries_iff (spelledOut.principals part member)]

/-- The same section decides about a path as before. -/
theorem IsSpelledOut.decidesOn_resaved_iff (spelledOut : document.IsSpelledOut)
    {repository : String} {path : Path} {part : Section} (member : part ∈ document.sections) :
    document.resaved.DecidesOn repository path identity part.resaved ↔
      document.DecidesOn repository path identity part := by
  constructor
  · rintro ⟨_, speaks, before, after, split, silentBefore⟩
    have silent : ∀ other ∈ document.sections, other.name ∈ before →
        ¬ document.SpeaksTo identity other := by
      intro other otherMember earlier otherSpeaks
      exact silentBefore other.resaved (List.mem_map_of_mem otherMember) earlier
        ((spelledOut.speaksTo_resaved_iff otherMember).2 otherSpeaks)
    exact ⟨member, (spelledOut.speaksTo_resaved_iff member).1 speaks, before, after, split, silent⟩
  · rintro ⟨_, speaks, before, after, split, silentBefore⟩
    have silent : ∀ other ∈ document.resaved.sections, other.name ∈ before →
        ¬ document.resaved.SpeaksTo identity other := by
      intro other otherMember earlier otherSpeaks
      obtain ⟨original, originalMember, rfl⟩ := List.mem_map.1 otherMember
      exact silentBefore original originalMember earlier
        ((spelledOut.speaksTo_resaved_iff originalMember).1 otherSpeaks)
    exact ⟨List.mem_map_of_mem member, (spelledOut.speaksTo_resaved_iff member).2 speaks,
      before, after, split, silent⟩

theorem StillGrantsTo.grantsTo {permission : Permission} {part : Section}
    (still : document.StillGrantsTo identity permission part) :
    document.GrantsTo identity permission part := by
  obtain ⟨entry, ⟨before, after, split, _⟩, forMe, granted⟩ := still
  exact ⟨entry, by simp [split], forMe, granted⟩

/-! ## Decisions -/

/-- After it is saved and loaded again, a document allows a request for a path when what is
needed is still granted. -/
theorem IsSpelledOut.allows_resaved_some_iff (spelledOut : document.IsSpelledOut)
    {repository text : String} {kind : AccessKind} :
    document.resaved.allows repository (some text) identity kind = true ↔
      (∃ part, document.DecidesOn repository (.ofText text) identity part ∧
        document.StillGrantsTo identity kind.permission part) ∧
      (kind = .readRecursive → ∀ part ∈ document.sections,
        IsNameBelow repository (.ofText text) part.name → document.SpeaksTo identity part →
          document.StillGrantsTo identity .read part) := by
  rw [allows_some_iff_grantsTo]
  constructor
  · rintro ⟨⟨again, decidesAgain, grantsAgain⟩, belowAgain⟩
    obtain ⟨part, member, rfl⟩ := List.mem_map.1 decidesAgain.1
    constructor
    · exact ⟨part, (spelledOut.decidesOn_resaved_iff member).1 decidesAgain,
        (spelledOut.grantsTo_resaved_iff member).1 grantsAgain⟩
    · intro recursive other otherMember nameBelow speaks
      have speaksAgain := (spelledOut.speaksTo_resaved_iff otherMember).2 speaks
      apply (spelledOut.grantsTo_resaved_iff otherMember).1
      exact belowAgain recursive other.resaved (List.mem_map_of_mem otherMember) nameBelow speaksAgain
  · rintro ⟨⟨part, decides, still⟩, stillBelow⟩
    constructor
    · exact ⟨part.resaved, (spelledOut.decidesOn_resaved_iff decides.1).2 decides,
        (spelledOut.grantsTo_resaved_iff decides.1).2 still⟩
    · intro recursive again againMember nameBelow speaksAgain
      obtain ⟨other, member, rfl⟩ := List.mem_map.1 againMember
      have speaks := (spelledOut.speaksTo_resaved_iff member).1 speaksAgain
      apply (spelledOut.grantsTo_resaved_iff member).2
      exact stillBelow recursive other member nameBelow speaks

/-- A document that is saved and loaded again allows what it allowed and does not forget. -/
theorem IsSpelledOut.allows_resaved_iff (spelledOut : document.IsSpelledOut) {repository : String}
    {path? : Option String} {kind : AccessKind} :
    document.resaved.allows repository path? identity kind = true ↔
      document.allows repository path? identity kind = true ∧
        ¬ document.Forgets repository identity path? kind := by
  cases path? with
  | none =>
      constructor
      · intro _
        constructor
        · rfl
        · intro forgets
          cases forgets
      · intro _
        rfl
  | some text =>
      rw [spelledOut.allows_resaved_some_iff, allows_some_iff_grantsTo]
      constructor
      · rintro ⟨⟨part, decides, still⟩, stillBelow⟩
        constructor
        · constructor
          · exact ⟨part, decides, still.grantsTo⟩
          · intro recursive other member nameBelow speaks
            exact (stillBelow recursive other member nameBelow speaks).grantsTo
        · intro forgets
          cases forgets with
          | deciding _ _ other otherDecides lost =>
              rw [otherDecides.unique decides] at lost
              exact lost still
          | below _ other member nameBelow speaks lost =>
              exact lost (stillBelow rfl other member nameBelow speaks)
      · rintro ⟨⟨⟨part, decides, _⟩, _⟩, remembers⟩
        constructor
        · have still : document.StillGrantsTo identity kind.permission part := by
            by_contra lost
            exact remembers (.deciding text kind part decides lost)
          exact ⟨part, decides, still⟩
        · rintro rfl other member nameBelow speaks
          by_contra lost
          exact remembers (.below text other member nameBelow speaks lost)

/-- A document that was loaded can be saved and loaded again, and it then answers a request
otherwise exactly when it allowed the request and a grant for it is forgotten. -/
theorem resave_allows_ne_iff_forgets {data : Data}
    (read : (Document.ofData data).value = .ok document) :
    ∃ again, (Document.ofData (.ofValue document.toSnapshot.toValue)).value = .ok again ∧
      ∀ repository path? identity kind,
        again.allows repository path? identity kind ≠ document.allows repository path? identity kind ↔
          document.allows repository path? identity kind = true ∧
            document.Forgets repository identity path? kind := by
  refine ⟨document.resaved, document.value_ofData_toSnapshot, ?_⟩
  intro repository path? identity kind
  have spelledOut := isSpelledOut_of_ofData read
  have agrees : document.resaved.allows repository path? identity kind = true ↔
      document.allows repository path? identity kind = true ∧
        ¬ document.Forgets repository identity path? kind := spelledOut.allows_resaved_iff
  constructor
  · intro differs
    have allowed : document.allows repository path? identity kind = true := by
      by_contra refused
      have refusedAgain : ¬ document.resaved.allows repository path? identity kind = true := by
        intro allowedAgain
        exact refused (agrees.1 allowedAgain).1
      rw [Bool.not_eq_true] at refused refusedAgain
      exact differs (refusedAgain.trans refused.symm)
    have forgets : document.Forgets repository identity path? kind := by
      by_contra remembers
      exact differs ((agrees.2 ⟨allowed, remembers⟩).trans allowed.symm)
    exact ⟨allowed, forgets⟩
  · rintro ⟨allowed, forgets⟩ same
    exact (agrees.1 (same.trans allowed)).2 forgets

/-- Data in which one section has two keys for alice. -/
def twiceNamedData : Data :=
  .ofValue (.map [(.text "sections", .map [(.text "/a", .map
    [(.text "alice", .ofText "r"), (.text " alice ", .ofText "w")])])])

theorem alice_ne_empty : "alice" ≠ "" := by decide

/-- The document of these data: alice reads by one entry and writes by the other. -/
def twiceNamed : Document where
  sections := [⟨"/a", [⟨.user ⟨"alice", alice_ne_empty⟩, .only .read⟩,
    ⟨.user ⟨"alice", alice_ne_empty⟩, .only .write⟩]⟩]
  groups := []
  unreserved := by decide
  sectionsDistinct := by decide
  groupsDistinct := List.nodup_nil

/-- A snapshot of the two entries forgets that alice may read. -/
theorem twiceNamed_forgets_read :
    (Document.ofData twiceNamedData).value = .ok twiceNamed ∧
      twiceNamed.Forgets "repo" (.named "alice") (some "/a") .read := by
  have read : (Document.ofData twiceNamedData).value = .ok twiceNamed := by decide +kernel
  obtain ⟨again, readAgain, differs⟩ := resave_allows_ne_iff_forgets read
  have isResaved : again = twiceNamed.resaved :=
    Except.ok.inj (readAgain.symm.trans twiceNamed.value_ofData_toSnapshot)
  have refused : again.allows "repo" (some "/a") (.named "alice") .read ≠
      twiceNamed.allows "repo" (some "/a") (.named "alice") .read := by
    rw [isResaved]
    decide +kernel
  exact ⟨read, ((differs "repo" (some "/a") (.named "alice") .read).1 refused).2⟩

/-- Alice may read before the document is saved and not after it is loaded again. -/
theorem twiceNamed_refuses_read_again :
    ∃ data document again, (Document.ofData data).value = .ok document ∧
      (Document.ofData (.ofValue document.toSnapshot.toValue)).value = .ok again ∧
      document.allows "repo" (some "/a") (.named "alice") .read = true ∧
      again.allows "repo" (some "/a") (.named "alice") .read = false := by
  refine ⟨twiceNamedData, twiceNamed, twiceNamed.resaved, ?_, ?_, ?_, ?_⟩
  · decide +kernel
  · exact twiceNamed.value_ofData_toSnapshot
  · decide +kernel
  · decide +kernel

end Document

end PathPolicy
