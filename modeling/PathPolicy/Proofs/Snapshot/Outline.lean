import PathPolicy.Proofs.Snapshot.Loaded
import PathPolicy.Proofs.Snapshot.Resave

/-!
# Data that spell an outline

What a reader makes of a stream need not be the very data that were written: a collection
may be kept under a label.  Data spell an outline when they have its lists and maps in
their order, wherever these are kept, and its texts in place.  All data that spell the
snapshot of a document are read alike, and where no entry of the document is lost in its
snapshot they are read as the document itself.
-/

namespace PathPolicy

open Text (Outline)

namespace Data

mutual

/-- Whether a value among some data is what an outline says. -/
def spells (data : Data) : Outline → Value → Bool
  | .text content, value =>
      match value with
      | .scalar (.text written) => written == content
      | _ => false
  | .list items, value =>
      match data.content value with
      | .list values => spellsItems data items values
      | _ => false
  | .map entries, value =>
      match data.content value with
      | .map pairs => spellsEntries data entries pairs
      | _ => false

/-- Whether values are one by one what outlines say. -/
def spellsItems (data : Data) : List Outline → List Value → Bool
  | [], [] => true
  | item :: rest, value :: values => spells data item value && spellsItems data rest values
  | _, _ => false

/-- Whether values under keys are one by one what outlines under the same keys say. -/
def spellsEntries (data : Data) : List (String × Outline) → List (Scalar × Value) → Bool
  | [], [] => true
  | (key, outline) :: rest, (.text name, value) :: pairs =>
      name == key && spells data outline value && spellsEntries data rest pairs
  | _, _ => false

end

variable {data : Data}

/-- A value under a key says what an outline under the same key does. -/
def SpellsEntry (data : Data) (entry : String × Outline) (pair : Scalar × Value) : Prop :=
  pair.1 = .text entry.1 ∧ data.spells entry.2 pair.2 = true

theorem spells_text_iff {content : String} {value : Value} :
    data.spells (.text content) value = true ↔ value = .ofText content := by
  cases value with
  | scalar datum => cases datum <;> simp [spells, Value.ofText]
  | _ => simp [spells, Value.ofText]

theorem spellsItems_iff {items : List Outline} {values : List Value} :
    data.spellsItems items values = true ↔
      List.Forall₂ (fun item value => data.spells item value = true) items values := by
  induction items generalizing values with
  | nil => cases values <;> simp [spellsItems]
  | cons item rest inductionHypothesis =>
      cases values with
      | nil => simp [spellsItems]
      | cons value values => simp [spellsItems, inductionHypothesis]

theorem spellsEntries_iff {entries : List (String × Outline)} {pairs : List (Scalar × Value)} :
    data.spellsEntries entries pairs = true ↔
      List.Forall₂ data.SpellsEntry entries pairs := by
  induction entries generalizing pairs with
  | nil => cases pairs <;> simp [spellsEntries]
  | cons entry rest inductionHypothesis =>
      cases pairs with
      | nil => simp [spellsEntries]
      | cons pair pairs =>
          obtain ⟨key, outline⟩ := entry
          obtain ⟨name, value⟩ := pair
          cases name with
          | text name => simp [spellsEntries, SpellsEntry, inductionHypothesis, and_assoc]
          | _ => simp [spellsEntries, SpellsEntry]

theorem spells_list_iff {items : List Outline} {value : Value} :
    data.spells (.list items) value = true ↔
      ∃ values, data.content value = .list values ∧
        List.Forall₂ (fun item value => data.spells item value = true) items values := by
  rw [spells]
  split
  · rename_i values content
    simp [content, spellsItems_iff]
  · rename_i noList
    constructor
    · intro impossible
      cases impossible
    · rintro ⟨values, content, _⟩
      exact absurd content (noList values)

theorem spells_map_iff {entries : List (String × Outline)} {value : Value} :
    data.spells (.map entries) value = true ↔
      ∃ pairs, data.content value = .map pairs ∧ List.Forall₂ data.SpellsEntry entries pairs := by
  rw [spells]
  split
  · rename_i pairs content
    simp [content, spellsEntries_iff]
  · rename_i noMap
    constructor
    · intro impossible
      cases impossible
    · rintro ⟨pairs, content, _⟩
      exact absurd content (noMap pairs)

mutual

theorem spells_ofOutline (data : Data) :
    ∀ outline, data.spells outline (.ofOutline outline) = true
  | .text content => by
      rw [Value.ofOutline_text, spells_text_iff]
  | .list items => by
      rw [Value.ofOutline_list, spells_list_iff]
      exact ⟨_, rfl, forall₂_spells_ofOutline data items⟩
  | .map entries => by
      rw [Value.ofOutline_map, spells_map_iff]
      exact ⟨_, rfl, forall₂_spells_ofOutlineEntries data entries⟩

theorem forall₂_spells_ofOutline (data : Data) : ∀ items : List Outline,
    List.Forall₂ (fun item value => data.spells item value = true) items
      (items.map Value.ofOutline)
  | [] => .nil
  | item :: rest => .cons (spells_ofOutline data item) (forall₂_spells_ofOutline data rest)

theorem forall₂_spells_ofOutlineEntries (data : Data) : ∀ entries : List (String × Outline),
    List.Forall₂ data.SpellsEntry entries
      (entries.map fun entry => (.text entry.1, .ofOutline entry.2))
  | [] => .nil
  | (_, outline) :: rest =>
      .cons ⟨rfl, spells_ofOutline data outline⟩ (forall₂_spells_ofOutlineEntries data rest)

end

end Data

namespace Snapshot

variable {data : Data}

/-! ## Reading what is spelled -/

theorem readMembers_of_spells {members : List String} {value : Value}
    (spelled : data.spells (.list (members.map .text)) value = true) :
    readMembers data value = .ok (membersOf members) := by
  obtain ⟨values, content, inOrder⟩ := Data.spells_list_iff.1 spelled
  have allRead : values.mapM (fun item => required (data.text item)) = .ok members := by
    rw [List.forall₂_map_left_iff] at inOrder
    refine mapM_eq_ok_iff.2 (inOrder.flip.imp ?_)
    intro member item spelledItem
    rw [Data.spells_text_iff.1 spelledItem]
    rfl
  rw [readMembers, content]
  exact map_eq_ok_iff.2 ⟨members, allRead, rfl⟩

theorem membersOf_toList {members : MemberSet}
    (trimmed : ∀ member ∈ members, member ≠ "" ∧ Text.trimmed member = member) :
    membersOf members.toList = members := by
  refine MemberSet.eq_of_mem_iff fun name => ?_
  rw [mem_membersOf_iff]
  constructor
  · rintro ⟨_, member, listed, rfl⟩
    rw [(trimmed member listed).2]
    exact listed
  · intro listed
    obtain ⟨named, same⟩ := trimmed name listed
    exact ⟨named, name, listed, same⟩

/-- Groups that are spelled by their members are read as they were. -/
theorem readGroups_of_spells {groups : List Group} {definitions : List (Scalar × Value)}
    (trimmed : ∀ group ∈ groups, ∀ member ∈ group.members,
      member ≠ "" ∧ Text.trimmed member = member)
    (spelled : List.Forall₂ data.SpellsEntry
      (groups.map fun group => (group.name, .list (group.members.toList.map .text)))
      definitions) :
    readGroups data definitions = .ok groups := by
  rw [List.forall₂_map_left_iff] at spelled
  rw [readGroups, mapM_eq_ok_iff]
  refine ((List.forall₂_and_left groups definitions).2 ⟨trimmed, spelled⟩).flip.imp ?_
  rintro ⟨name, value⟩ group ⟨groupTrimmed, rfl, spelledMembers⟩
  have membersRead : readMembers data value = .ok group.members := by
    rw [readMembers_of_spells spelledMembers, membersOf_toList groupTrimmed]
  exact bind_eq_ok_iff.2 ⟨group.name, rfl, bind_eq_ok_iff.2 ⟨group.members, membersRead, rfl⟩⟩

/-- Entries that are spelled by their own texts are read, and none is left out. -/
theorem readEntries_of_spells {name : String} {entries : List Entry} {raw : List (Scalar × Value)}
    (spelledOut : ∀ entry ∈ entries, entry.principal.IsSpelledOut)
    (spelled : List.Forall₂ data.SpellsEntry
      (entries.map fun entry => (entry.principal.text, .text entry.permissions)) raw) :
    readEntries data (.text name) raw = pure (.ok entries) := by
  induction entries generalizing raw with
  | nil =>
      cases spelled
      rfl
  | cons entry rest inductionHypothesis =>
      rw [List.map_cons, List.forall₂_cons_left_iff] at spelled
      obtain ⟨⟨token, permissions⟩, later, ⟨rfl, isText⟩, spelledRest, rfl⟩ := spelled
      obtain rfl := Data.spells_text_iff.1 isText
      rw [List.forall_mem_cons] at spelledOut
      have readFirst : readEntry data entry.principal.text (.ofText entry.permissions) =
          .ok (.ok entry) := by
        rw [readEntry_texts, Entry.parse_text_permissions spelledOut.1]
        rfl
      simp only [readEntries, required_text, readFirst,
        inductionHypothesis spelledOut.2 spelledRest]
      rfl

theorem readSection_of_spells {part : Section} {value : Value}
    (spelledOut : ∀ entry ∈ part.entries, entry.principal.IsSpelledOut)
    (spelled : data.spells (.map (part.entries.map fun entry =>
      (entry.principal.text, .text entry.permissions))) value = true) :
    readSection data (.text part.name) value = pure (.ok part) := by
  obtain ⟨raw, content, inOrder⟩ := Data.spells_map_iff.1 spelled
  simp only [readSection, entriesOf, content, readEntries_of_spells spelledOut inOrder]
  rfl

/-- Sections that are spelled out are read in their order. -/
theorem readSections_of_spells {sections : List Section} {raw : List (Scalar × Value)}
    (spelledOut : ∀ part ∈ sections, ∀ entry ∈ part.entries, entry.principal.IsSpelledOut)
    (spelled : List.Forall₂ data.SpellsEntry
      (sections.map fun part => (part.name, .map (part.entries.map fun entry =>
        (entry.principal.text, .text entry.permissions)))) raw) :
    readSections data raw = pure (.ok sections) := by
  induction sections generalizing raw with
  | nil =>
      cases spelled
      rfl
  | cons part rest inductionHypothesis =>
      rw [List.map_cons, List.forall₂_cons_left_iff] at spelled
      obtain ⟨⟨name, value⟩, later, ⟨rfl, spelledPart⟩, spelledRest, rfl⟩ := spelled
      rw [List.forall_mem_cons] at spelledOut
      simp only [readSections, readSection_of_spells spelledOut.1 spelledPart,
        inductionHypothesis spelledOut.2 spelledRest]
      rfl

end Snapshot

/-! ## The document -/

namespace Document

/-- No two entries of one section have principals with the same text. -/
def HasDistinctPrincipals (document : Document) : Prop :=
  ∀ part ∈ document.sections, (part.entries.map fun entry => entry.principal.text).Nodup

/-- The outline of a document whose sections have one entry for a principal holds all its
entries. -/
theorem fields_toSnapshot {document : Document} (distinct : document.HasDistinctPrincipals) :
    document.toSnapshot.fields =
      [(Snapshot.groupsKey, .map (document.groups.map fun group =>
          (group.name, .list (group.members.toList.map .text)))),
        (Snapshot.sectionsKey, .map (document.sections.map fun part =>
          (part.name, .map (part.entries.map fun entry =>
            (entry.principal.text, .text entry.permissions)))))] := by
  have groupsKept : document.toSnapshot.groups =
      document.groups.map fun group => (group.name, group.members.toList) :=
    Table.ofPairs_eq_self (by rw [List.map_map]; exact document.groupsDistinct)
  have sectionsListed : document.toSnapshot.sections = document.sections.map fun part =>
      (part.name, Table.ofPairs (part.entries.map fun entry =>
        (entry.principal.text, entry.permissions))) :=
    Table.ofPairs_eq_self (by rw [List.map_map]; exact document.sectionsDistinct)
  have sectionsKept : document.toSnapshot.sections = document.sections.map fun part =>
      (part.name, part.entries.map fun entry => (entry.principal.text, entry.permissions)) := by
    rw [sectionsListed]
    refine List.map_congr_left fun part member => ?_
    rw [Table.ofPairs_eq_self (by rw [List.map_map]; exact distinct part member)]
  rw [Snapshot.fields, groupsKept, sectionsKept]
  simp

/-- Data that spell the snapshot of a document are read as the document, and no entry is left
out, when the document is spelled out and its sections have one entry for a principal. -/
theorem ofData_of_spells {document : Document} {data : Data} (spelledOut : document.IsSpelledOut)
    (distinct : document.HasDistinctPrincipals)
    (spelled : data.spells (.map document.toSnapshot.fields) data.root = true) :
    ofData data = pure (.ok document) := by
  rw [fields_toSnapshot distinct] at spelled
  obtain ⟨fields, isMap, inOrder⟩ := Data.spells_map_iff.1 spelled
  simp only [List.forall₂_cons_left_iff, List.forall₂_nil_left_iff] at inOrder
  obtain ⟨⟨_, groups⟩, _, ⟨rfl, spelledGroups⟩, ⟨⟨_, sections⟩, _, ⟨rfl, spelledSections⟩, rfl, rfl⟩,
    rfl⟩ := inOrder
  obtain ⟨definitions, groupsContent, groupsInOrder⟩ := Data.spells_map_iff.1 spelledGroups
  obtain ⟨raw, sectionsContent, sectionsInOrder⟩ := Data.spells_map_iff.1 spelledSections
  have groupsRead : Snapshot.readGroups data definitions = .ok document.groups :=
    Snapshot.readGroups_of_spells spelledOut.members groupsInOrder
  have sectionsRead : Snapshot.readSections data raw = pure (.ok document.sections) :=
    Snapshot.readSections_of_spells spelledOut.principals sectionsInOrder
  have groupsFound : Snapshot.entriesOf data (some groups) = .ok definitions := by
    rw [Snapshot.entriesOf, groupsContent]
  have sectionsFound : Snapshot.entriesOf data (some sections) = .ok raw := by
    rw [Snapshot.entriesOf, sectionsContent]
  rw [Snapshot.ofData_of_groups isMap groupsFound groupsRead sectionsFound, sectionsRead]
  exact congrArg pure (mapError_eq_ok_iff.2 (ofParts_sections_groups document))

end Document

end PathPolicy
