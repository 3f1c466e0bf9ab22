import PathPolicy.Proofs.Document.Names
import PathPolicy.Proofs.FirstFault
import PathPolicy.Proofs.Table.Pairs
import PathPolicy.Snapshot

/-!
# Reading a snapshot again

The data of a snapshot hold nothing but texts, so they can always be read.  What is read
from the snapshot of a document is the same document but for two things: of the entries of
a section whose principals have the same text one is left, and entries and members that
do not stand for themselves are read as what they are written like.
-/

namespace PathPolicy

namespace Entry

/-- The entries that pairs of texts stand for; a pair that stands for none is left out. -/
def ofTexts (pairs : List (String × String)) : List Entry :=
  pairs.filterMap fun pair => (parse pair.1 pair.2).toOption

/-- The entries of some texts are those that the texts stand for. -/
theorem mem_ofTexts_iff {pairs : List (String × String)} {entry : Entry} :
    entry ∈ ofTexts pairs ↔ ∃ pair ∈ pairs, parse pair.1 pair.2 = .ok entry := by
  have kept : ∀ pair : String × String,
      (parse pair.1 pair.2).toOption = some entry ↔ parse pair.1 pair.2 = .ok entry := by
    intro pair
    cases parse pair.1 pair.2 <;> simp [Except.toOption]
  simp only [ofTexts, List.mem_filterMap, kept]

end Entry

/-- A section as it is read again from a snapshot. -/
def Section.resaved (part : Section) : Section where
  name := part.name
  entries := Entry.ofTexts <| Table.ofPairs <| part.entries.map fun entry =>
    (entry.principal.text, entry.permissions)

/-- A group as it is read again from a snapshot. -/
def Group.resaved (group : Group) : Group where
  name := group.name
  members := Snapshot.membersOf group.members.toList

/-- A document as it is read again from its snapshot. -/
def Document.resaved (document : Document) : Document where
  sections := document.sections.map Section.resaved
  groups := document.groups.map Group.resaved
  unreserved := by
    intro part member
    obtain ⟨original, originalMember, rfl⟩ := List.mem_map.1 member
    exact document.unreserved original originalMember
  sectionsDistinct := by
    rw [List.map_map]
    exact document.sectionsDistinct
  groupsDistinct := by
    rw [List.map_map]
    exact document.groupsDistinct

namespace Snapshot

theorem toValue_eq (snapshot : Snapshot) :
    snapshot.toValue = .map
      [(.text groupsKey, .map (snapshot.groups.map fun group =>
          (.text group.1, .list (group.2.map .ofText)))),
        (.text sectionsKey, .map (snapshot.sections.map fun part =>
          (.text part.1, .map (part.2.map fun entry => (.text entry.1, .ofText entry.2)))))] := by
  simp [toValue, fields, Function.comp_def]

/-! ## Reading texts -/

@[simp]
theorem required_text (content : String) :
    required (Scalar.text content).plainText = .ok content :=
  rfl

theorem readMembers_texts (data : Data) (members : List String) :
    readMembers data (.list (members.map .ofText)) = .ok (membersOf members) := by
  have allRead : (members.map Value.ofText).mapM (fun item => required (data.text item)) =
      .ok members := by
    rw [mapM_eq_ok_iff, List.forall₂_map_left_iff, List.forall₂_same]
    intro member _
    rfl
  exact map_eq_ok_iff.2 ⟨members, allRead, rfl⟩

theorem readGroups_texts (data : Data) (groups : List (String × List String)) :
    readGroups data (groups.map fun group => (.text group.1, .list (group.2.map .ofText))) =
      .ok (groups.map fun group => ⟨group.1, membersOf group.2⟩) := by
  rw [readGroups, mapM_eq_ok_iff, List.forall₂_map_left_iff, List.forall₂_map_right_iff,
    List.forall₂_same]
  intro group _
  exact bind_eq_ok_iff.2 ⟨group.1, rfl,
    bind_eq_ok_iff.2 ⟨membersOf group.2, readMembers_texts data group.2, rfl⟩⟩

/-- An entry of two texts is read as they stand. -/
theorem readEntry_texts (data : Data) (token permissions : String) :
    readEntry data token (.ofText permissions) =
      .ok ((Entry.parse token permissions).mapError .principal) := by
  have asWritten : permissionsOf data (.ofText permissions) = .ok permissions := by
    rw [permissionsOf]
    split
    · rename_i void
      rw [eq_of_beq (show (permissions == "") = true from void)]
    · rfl
  rw [readEntry, asWritten]

/-- Entries of texts are read but for those that stand for none. -/
theorem value_readEntries_texts (data : Data) (name : String) (pairs : List (String × String)) :
    (readEntries data (.text name) (pairs.map fun entry => (.text entry.1, .ofText entry.2))).value =
      .ok (Entry.ofTexts pairs) := by
  induction pairs with
  | nil => rfl
  | cons pair rest inductionHypothesis =>
      obtain ⟨token, permissions⟩ := pair
      rw [List.map_cons, readEntries]
      simp only [required_text, readEntry_texts]
      cases parsed : Entry.parse token permissions with
      | error fault =>
          simpa [Except.mapError, Entry.ofTexts, parsed, Except.toOption] using inductionHypothesis
      | ok entry =>
          simp [Except.mapError, Entry.ofTexts, parsed, Except.toOption, inductionHypothesis,
            Except.map]

theorem value_readSection_texts (data : Data) (name : String) (pairs : List (String × String)) :
    (readSection data (.text name)
        (.map (pairs.map fun entry => (.text entry.1, .ofText entry.2)))).value =
      .ok ⟨name, Entry.ofTexts pairs⟩ := by
  simp [readSection, entriesOf, value_readEntries_texts, Except.map]

/-- Sections that are written as texts are read in their order. -/
theorem value_readSections_texts (data : Data)
    (sections : List (String × List (String × String))) :
    (readSections data (sections.map fun part =>
      (.text part.1, .map (part.2.map fun entry => (.text entry.1, .ofText entry.2))))).value =
      .ok (sections.map fun part => ⟨part.1, Entry.ofTexts part.2⟩) := by
  induction sections with
  | nil => rfl
  | cons part rest inductionHypothesis =>
      obtain ⟨name, pairs⟩ := part
      simp [readSections, value_readSection_texts, inductionHypothesis, Except.map]

/-- Data with groups that can be read describe the document of these and of their sections. -/
theorem ofData_of_groups {data : Data} {fields definitions raw : List (Scalar × Value)}
    {groups : List Group} (isMap : data.content data.root = .map fields)
    (groupsFound : entriesOf data (Value.entry? fields groupsKey) = .ok definitions)
    (groupsRead : readGroups data definitions = .ok groups)
    (sectionsFound : entriesOf data (Value.entry? fields sectionsKey) = .ok raw) :
    Document.ofData data = (do
      match ← readSections data raw with
      | .error fault => pure (.error fault)
      | .ok sections => pure ((Document.ofParts sections groups).mapError .document)) := by
  have gathered : (do
      let definitions ← entriesOf data (Value.entry? fields groupsKey)
      let groups ← readGroups data definitions
      let raw ← entriesOf data (Value.entry? fields sectionsKey)
      pure (groups, raw)) = Except.ok (groups, raw) := by
    rw [groupsFound, sectionsFound]
    exact bind_eq_ok_iff.2 ⟨definitions, rfl, bind_eq_ok_iff.2 ⟨groups, groupsRead, rfl⟩⟩
  rw [Document.ofData, isMap]
  dsimp only
  split
  · rename_i fault failed
    rw [gathered] at failed
    cases failed
  · rename_i found
    rw [gathered] at found
    cases found
    rfl

theorem value_ofData_toValue (snapshot : Snapshot) :
    (Document.ofData (.ofValue snapshot.toValue)).value =
      (Document.ofParts (snapshot.sections.map fun part => ⟨part.1, Entry.ofTexts part.2⟩)
        (snapshot.groups.map fun group => ⟨group.1, membersOf group.2⟩)).mapError .document := by
  have isMap : (Data.ofValue snapshot.toValue).content (Data.ofValue snapshot.toValue).root =
      .map _ := toValue_eq snapshot
  rw [ofData_of_groups isMap rfl (readGroups_texts _ snapshot.groups) rfl,
    Traced.value_bind, value_readSections_texts, Traced.value_pure]

end Snapshot

/-- The snapshot of a document is always read again. -/
theorem Document.value_ofData_toSnapshot (document : Document) :
    (Document.ofData (.ofValue document.toSnapshot.toValue)).value = .ok document.resaved := by
  have groupsKept : document.toSnapshot.groups =
      document.groups.map fun group => (group.name, group.members.toList) :=
    Table.ofPairs_eq_self (by rw [List.map_map]; exact document.groupsDistinct)
  have sectionsKept : document.toSnapshot.sections = document.sections.map fun part =>
      (part.name, Table.ofPairs (part.entries.map fun entry =>
        (entry.principal.text, entry.permissions))) :=
    Table.ofPairs_eq_self (by rw [List.map_map]; exact document.sectionsDistinct)
  rw [Snapshot.value_ofData_toValue, groupsKept, sectionsKept, List.map_map, List.map_map]
  exact mapError_eq_ok_iff.2 (ofParts_sections_groups document.resaved)

end PathPolicy
