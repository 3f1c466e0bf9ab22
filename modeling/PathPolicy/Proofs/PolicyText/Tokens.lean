import PathPolicy.Proofs.PolicyText.Contents
import PathPolicy.Proofs.Snapshot.Outline

/-!
# Tokens in a policy text

A key in front of a colon or an equals sign has no blanks around it, and no later line
changes that.  So the principals of a section are spelled as its keys are, and different
keys stand for different principals.
-/

namespace PathPolicy

/-- Entries whose tokens have no blanks around them are spelled as their tokens are. -/
theorem Entry.map_text_ofTexts_sublist {pairs : List (String × String)}
    (trimmed : ∀ pair ∈ pairs, Text.trimmed pair.1 = pair.1) :
    ((ofTexts pairs).map fun entry => entry.principal.text).Sublist (pairs.map Prod.fst) := by
  induction pairs with
  | nil => exact List.Sublist.slnil
  | cons pair rest inductionHypothesis =>
      obtain ⟨token, permissions⟩ := pair
      rw [List.forall_mem_cons] at trimmed
      obtain ⟨tokenTrimmed, restTrimmed⟩ := trimmed
      have later := inductionHypothesis restTrimmed
      cases parsed : Entry.parse token permissions with
      | error fault =>
          simpa [ofTexts, parsed, Except.toOption] using later.cons token
      | ok entry =>
          obtain ⟨principal, readPrincipal, rfl⟩ := map_eq_ok_iff.1 parsed
          have spelled : principal.text = token :=
            (Principal.text_of_parse_eq_ok readPrincipal).trans tokenTrimmed
          simpa [ofTexts, parsed, Except.toOption, ofPermissions, spelled]
            using later.cons_cons token

namespace PolicyText

/-! ## Keys -/

/-- No key has blanks around it. -/
def RawSections.HasTrimmedKeys (sections : RawSections) : Prop :=
  ∀ part ∈ sections, ∀ key ∈ part.2.keys, Text.trimmed key = key

theorem readSections_hasTrimmedKeys (text : String) : (readSections text).1.HasTrimmedKeys := by
  intro part member key present
  rcases List.mem_map.1 present with ⟨pair, listed, rfl⟩
  have isKey := ((readSections_contents text part member).2 pair listed).1
  rw [Text.trimmed, isKey.trimmed, String.ofList_toList]

/-! ## The document -/

/-- The entries of a raw section are those that its pairs stand for. -/
theorem value_readEntries (source sectionName : String) (raw : Table String String) :
    (readEntries source sectionName raw).value = Entry.ofTexts raw := by
  induction raw with
  | nil => rfl
  | cons pair rest inductionHypothesis =>
      obtain ⟨token, permissions⟩ := pair
      rw [readEntries]
      cases parsed : Entry.parse token permissions with
      | error fault =>
          simpa [Entry.ofTexts, parsed, Except.toOption] using inductionHypothesis
      | ok entry =>
          simpa [Entry.ofTexts, parsed, Except.toOption] using inductionHypothesis

/-- The sections are read one by one under their names. -/
theorem value_readAllEntries (source : String) (raw : RawSections) :
    (readAllEntries source raw).value = raw.map fun part => ⟨part.1, Entry.ofTexts part.2⟩ := by
  induction raw with
  | nil => rfl
  | cons part rest inductionHypothesis =>
      simp [readAllEntries, value_readEntries, inductionHypothesis]

/-- The document of a text is made of its raw sections. -/
theorem value_parse (source text : String) :
    (parse source text).value =
      Document.ofParts
        ((Table.remove groupsName (readSections text).1).map fun part =>
          ⟨part.1, Entry.ofTexts part.2⟩)
        (groupsOf (readSections text).1) := by
  rw [← value_readAllEntries source]
  simp only [parse, Traced.value_bind]
  split
  · rename_i fault made
    exact made.symm
  · rename_i document made
    exact made.symm

theorem parts_of_parse {source text : String} {document : Document}
    (parsed : (parse source text).value = .ok document) :
    document.sections = (Table.remove groupsName (readSections text).1).map (fun part =>
        ⟨part.1, Entry.ofTexts part.2⟩) ∧
      document.groups = groupsOf (readSections text).1 := by
  rw [value_parse] at parsed
  exact Document.parts_of_ofParts_eq_ok parsed

/-- Documents that are read from a text are spelled out. -/
theorem isSpelledOut_of_parse {source text : String} {document : Document}
    (parsed : (parse source text).value = .ok document) : document.IsSpelledOut := by
  obtain ⟨sections, groups⟩ := parts_of_parse parsed
  constructor
  · intro part member entry entryMember
    rw [sections] at member
    obtain ⟨raw, _, rfl⟩ := List.mem_map.1 member
    obtain ⟨pair, _, read⟩ := Entry.mem_ofTexts_iff.1 entryMember
    exact Entry.isSpelledOut_of_parse_eq_ok read
  · intro group member user listed
    rw [groups, groupsOf] at member
    obtain ⟨⟨name, text⟩, _, rfl⟩ := List.mem_map.1 member
    have isMember : user ∈ MemberSet.ofCommaSeparated text := listed
    rw [← Snapshot.membersOf_splitAt] at isMember
    obtain ⟨named, piece, _, rfl⟩ := Snapshot.mem_membersOf_iff.1 isMember
    exact ⟨named, Text.trimmed_trimmed piece⟩

/-- Documents that are read from a text have one entry for a principal in a section. -/
theorem hasDistinctPrincipals_of_parse {source text : String} {document : Document}
    (parsed : (parse source text).value = .ok document) : document.HasDistinctPrincipals := by
  intro part member
  rw [(parts_of_parse parsed).1] at member
  obtain ⟨raw, rawMember, rfl⟩ := List.mem_map.1 member
  have present : raw ∈ (readSections text).1 := List.mem_of_mem_filter rawMember
  have trimmed : ∀ pair ∈ raw.2, Text.trimmed pair.1 = pair.1 := by
    intro pair pairMember
    exact readSections_hasTrimmedKeys text raw present pair.1 (List.mem_map_of_mem pairMember)
  have distinct : (raw.2.map Prod.fst).Nodup :=
    (readSections_hasDistinctKeys text).keys raw present
  exact distinct.sublist (Entry.map_text_ofTexts_sublist trimmed)

end PolicyText

end PathPolicy
