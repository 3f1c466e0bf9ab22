import PathPolicy.Proofs.Document.Names
import PathPolicy.Proofs.Principal.Spelling
import PathPolicy.Proofs.Snapshot.Faults

/-!
# Loaded documents

A document that was read from snapshot data has no principal and no member of a group
that could not be written down: principals are spelled out, and members have a name
without blanks around it.
-/

namespace PathPolicy

/-- A document is spelled out when each of its principals is and its groups list names
without blanks around them. -/
structure Document.IsSpelledOut (document : Document) : Prop where
  principals : ∀ part ∈ document.sections, ∀ entry ∈ part.entries, entry.principal.IsSpelledOut
  members : ∀ group ∈ document.groups, ∀ member ∈ group.members,
    member ≠ "" ∧ Text.trimmed member = member

namespace Snapshot

/-! ## Members -/

/-- The members in some texts are the texts without the blanks around them, if anything is
left. -/
theorem mem_membersOf_iff {texts : List String} {member : String} :
    member ∈ membersOf texts ↔ member ≠ "" ∧ ∃ text ∈ texts, Text.trimmed text = member := by
  rw [membersOf, MemberSet.mem_ofList, List.mem_filterMap]
  constructor
  · rintro ⟨text, listed, kept⟩
    by_cases empty : Text.trim text.toList = []
    · simp [empty] at kept
    · have called : Text.trimmed text = member := by simpa [empty, Text.trimmed] using kept
      have named : member ≠ "" := by
        rw [← called, Text.trimmed, ne_eq, String.ofList_eq_empty_iff]
        exact empty
      exact ⟨named, text, listed, called⟩
  · rintro ⟨named, text, listed, rfl⟩
    rw [Text.trimmed, ne_eq, String.ofList_eq_empty_iff] at named
    exact ⟨text, listed, by simp [named, Text.trimmed]⟩

theorem trimmed_of_mem_readMembers {data : Data} {value : Value} {members : MemberSet}
    (read : readMembers data value = .ok members) {member : String} (listed : member ∈ members) :
    member ≠ "" ∧ Text.trimmed member = member := by
  have listable := (exists_readMembers_iff.1 ⟨members, read⟩).1
  rw [readMembers_of_listable listable] at read
  obtain ⟨texts, _, rfl⟩ := map_eq_ok_iff.1 read
  obtain ⟨named, text, _, rfl⟩ := mem_membersOf_iff.1 listed
  exact ⟨named, Text.trimmed_trimmed text⟩

theorem exists_readMembers_of_mem_readGroups {data : Data} {definitions : List (Scalar × Value)}
    {groups : List Group} (read : readGroups data definitions = .ok groups) {group : Group}
    (member : group ∈ groups) : ∃ value, readMembers data value = .ok group.members := by
  obtain ⟨definition, _, readDefinition⟩ := exists_of_mem_mapM read member
  obtain ⟨name, _, readDefinition⟩ := bind_eq_ok_iff.1 readDefinition
  obtain ⟨members, readMembers, made⟩ := bind_eq_ok_iff.1 readDefinition
  cases made
  exact ⟨definition.2, readMembers⟩

/-! ## Entries -/

/-- Entries that are read are spelled out. -/
theorem isSpelledOut_of_mem_readEntries {data : Data} {sectionName : Scalar}
    {raw : List (Scalar × Value)} {entries : List Entry}
    (read : (readEntries data sectionName raw).value = .ok entries) {entry : Entry}
    (member : entry ∈ entries) : entry.principal.IsSpelledOut := by
  induction raw generalizing entries with
  | nil =>
      cases read
      cases member
  | cons pair rest inductionHypothesis =>
      obtain ⟨token, permissions⟩ := pair
      rw [readEntries] at read
      split at read
      · cases read
      · split at read
        · cases read
        · rename_i first readFirst
          rw [Traced.value_bind, Traced.value_pure] at read
          obtain ⟨others, readRest, rfl⟩ := map_eq_ok_iff.1 read
          rcases List.mem_cons.1 member with rfl | later
          · rw [readEntry] at readFirst
            split at readFirst
            · cases readFirst
            · cases readFirst
            · exact Entry.isSpelledOut_of_parse_eq_ok
                (mapError_eq_ok_iff.1 (Except.ok.inj readFirst))
          · exact inductionHypothesis readRest later
        · cases read
        · exact inductionHypothesis read member

/-- A section is read with its entries. -/
theorem exists_readEntries_of_readSection {data : Data} {name : Scalar} {value : Value}
    {part : Section} (read : (readSection data name value).value = .ok part) :
    ∃ raw, (readEntries data name raw).value = .ok part.entries := by
  rw [readSection] at read
  split at read
  · cases read
  · rename_i raw _
    rw [Traced.value_bind] at read
    split at read
    · cases read
    · rename_i entries readEntries
      rw [Traced.value_pure] at read
      obtain ⟨text, _, rfl⟩ := map_eq_ok_iff.1 read
      exact ⟨raw, readEntries⟩

/-- Every section that is read is read from some data. -/
theorem exists_readSection_of_mem_readSections {data : Data} {raw : List (Scalar × Value)}
    {sections : List Section} (read : (readSections data raw).value = .ok sections)
    {part : Section} (member : part ∈ sections) :
    ∃ name value, (readSection data name value).value = .ok part := by
  induction raw generalizing sections with
  | nil =>
      cases read
      cases member
  | cons pair rest inductionHypothesis =>
      obtain ⟨name, value⟩ := pair
      rw [readSections, Traced.value_bind] at read
      split at read
      · cases read
      · rename_i first readFirst
        rw [Traced.value_bind, Traced.value_pure] at read
        obtain ⟨others, readRest, rfl⟩ := map_eq_ok_iff.1 read
        rcases List.mem_cons.1 member with rfl | later
        · exact ⟨name, value, readFirst⟩
        · exact inductionHypothesis readRest later

/-! ## Documents -/

/-- A document that is read has sections and groups that are read. -/
theorem exists_parts_of_ofData {data : Data} {document : Document}
    (read : (Document.ofData data).value = .ok document) :
    (∃ raw, (readSections data raw).value = .ok document.sections) ∧
      ∃ definitions, readGroups data definitions = .ok document.groups := by
  rw [Document.ofData] at read
  split at read
  · rename_i fields _
    dsimp only at read
    split at read
    · cases read
    · rename_i groups raw gathered
      rw [Traced.value_bind] at read
      split at read
      · cases read
      · rename_i sections readSections
        rw [Traced.value_pure] at read
        obtain ⟨sameSections, sameGroups⟩ :=
          Document.parts_of_ofParts_eq_ok (mapError_eq_ok_iff.1 read)
        obtain ⟨definitions, _, gathered⟩ := bind_eq_ok_iff.1 gathered
        obtain ⟨_, readGroups, gathered⟩ := bind_eq_ok_iff.1 gathered
        obtain ⟨_, _, paired⟩ := bind_eq_ok_iff.1 gathered
        cases paired
        rw [sameSections, sameGroups]
        exact ⟨⟨raw, readSections⟩, definitions, readGroups⟩
  · cases read

end Snapshot

/-- Documents that are read are spelled out. -/
theorem Document.isSpelledOut_of_ofData {data : Data} {document : Document}
    (read : (Document.ofData data).value = .ok document) : document.IsSpelledOut := by
  obtain ⟨⟨raw, readSections⟩, definitions, readGroups⟩ := Snapshot.exists_parts_of_ofData read
  constructor
  · intro part member entry entryMember
    obtain ⟨name, value, readSection⟩ :=
      Snapshot.exists_readSection_of_mem_readSections readSections member
    obtain ⟨raw, readEntries⟩ := Snapshot.exists_readEntries_of_readSection readSection
    exact Snapshot.isSpelledOut_of_mem_readEntries readEntries entryMember
  · intro group member listed
    obtain ⟨value, readMembers⟩ := Snapshot.exists_readMembers_of_mem_readGroups readGroups member
    exact Snapshot.trimmed_of_mem_readMembers readMembers

end PathPolicy
