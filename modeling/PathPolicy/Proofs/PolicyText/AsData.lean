import PathPolicy.Proofs.PolicyText.Tokens

/-!
# Policy texts as snapshot data

The raw sections of a policy text are data like those of a snapshot: the definitions of the groups
with their members in one text each, and for every other section the permissions under the tokens of
the principals.  Read as a snapshot they give the document of the text, and the same entries are
left out on both ways, for the same reasons.
-/

namespace PathPolicy

/-- The entries of a section that are left out because their tokens stand for no principal. -/
def Entry.skippedTexts (sectionName : String) (pairs : List (String × String)) :
    List Snapshot.Skipped :=
  pairs.filterMap fun pair =>
    match parse pair.1 pair.2 with
    | .ok _ => none
    | .error fault => some ⟨pair.1, sectionName, .principal fault⟩

theorem Entry.skippedTexts_cons (sectionName token permissions : String)
    (rest : List (String × String)) :
    skippedTexts sectionName ((token, permissions) :: rest) =
      match parse token permissions with
      | .ok _ => skippedTexts sectionName rest
      | .error fault =>
          ⟨token, sectionName, .principal fault⟩ :: skippedTexts sectionName rest := by
  rw [skippedTexts, List.filterMap_cons]
  cases parse token permissions <;> rfl

namespace PolicyText

/-- Raw sections as the data of a snapshot. -/
def RawSections.toValue (sections : RawSections) : Value :=
  .map
    [(.text Snapshot.groupsKey, .map ((sections.entries groupsName).map fun definition =>
        (.text definition.1, .ofText definition.2))),
      (.text Snapshot.sectionsKey, .map ((Table.remove groupsName sections).map fun part =>
        (.text part.1, .map (part.2.map fun entry => (.text entry.1, .ofText entry.2)))))]

/-- The entry that an event tells to be left out. -/
def Event.skipped? : Event → Option Snapshot.Skipped
  | .entrySkipped _ token sectionName fault => some ⟨token, sectionName, .principal fault⟩
  | _ => none

/-! ## Read as a text -/

theorem skipped_readEntries (source sectionName : String) (raw : Table String String) :
    (readEntries source sectionName raw).events.filterMap Event.skipped? =
      Entry.skippedTexts sectionName raw := by
  induction raw with
  | nil => rfl
  | cons pair rest inductionHypothesis =>
      rcases pair with ⟨token, permissions⟩
      rw [readEntries, Entry.skippedTexts_cons]
      cases Entry.parse token permissions with
      | ok entry => simpa using inductionHypothesis
      | error fault => simpa [Event.skipped?] using inductionHypothesis

theorem skipped_readAllEntries (source : String) (raw : RawSections) :
    (readAllEntries source raw).events.filterMap Event.skipped? =
      raw.flatMap fun part => Entry.skippedTexts part.1 part.2 := by
  induction raw with
  | nil => rfl
  | cons part rest inductionHypothesis =>
      rcases part with ⟨name, entries⟩
      simp [readAllEntries, skipped_readEntries, inductionHypothesis]

/-- While a text is read, entries are left out of its sections and of nothing else. -/
theorem skipped_parse (source text : String) :
    (parse source text).events.filterMap Event.skipped? =
      (Table.remove groupsName (readSections text).1).flatMap fun part =>
        Entry.skippedTexts part.1 part.2 := by
  rw [← skipped_readAllEntries source]
  have noLine : ∀ warnings : List LineWarning,
      (warnings.map (Event.lineSkipped source)).filterMap Event.skipped? = [] := by
    intro warnings
    rw [List.filterMap_map, List.filterMap_eq_nil_iff]
    intro warning _
    rfl
  simp only [parse, Traced.events_bind, List.filterMap_append, noLine, List.nil_append]
  split <;> simp [Event.skipped?]

end PolicyText

/-! ## Read as a snapshot -/

namespace Snapshot

theorem events_readEntries_texts (data : Data) (name : String) (pairs : List (String × String)) :
    (readEntries data (.text name)
        (pairs.map fun entry => (.text entry.1, .ofText entry.2))).events =
      Entry.skippedTexts name pairs := by
  induction pairs with
  | nil => rfl
  | cons pair rest inductionHypothesis =>
      rcases pair with ⟨token, permissions⟩
      rw [List.map_cons, readEntries, Entry.skippedTexts_cons]
      simp only [required_text, readEntry_texts]
      cases Entry.parse token permissions with
      | ok entry => simpa [Except.mapError] using inductionHypothesis
      | error fault => simpa [Except.mapError] using inductionHypothesis

theorem events_readSection_texts (data : Data) (name : String) (pairs : List (String × String)) :
    (readSection data (.text name)
        (.map (pairs.map fun entry => (.text entry.1, .ofText entry.2)))).events =
      Entry.skippedTexts name pairs := by
  simp [readSection, entriesOf, value_readEntries_texts, events_readEntries_texts]

theorem events_readSections_texts (data : Data)
    (sections : List (String × List (String × String))) :
    (readSections data (sections.map fun part =>
        (.text part.1, .map (part.2.map fun entry => (.text entry.1, .ofText entry.2))))).events =
      sections.flatMap fun part => Entry.skippedTexts part.1 part.2 := by
  induction sections with
  | nil => rfl
  | cons part rest inductionHypothesis =>
      rcases part with ⟨name, pairs⟩
      simp [readSections, value_readSection_texts, events_readSection_texts, inductionHypothesis]

theorem readGroups_listed (data : Data) (definitions : List (String × String)) :
    readGroups data (definitions.map fun definition => (.text definition.1, .ofText definition.2)) =
      .ok (definitions.map fun definition =>
        ⟨definition.1, .ofCommaSeparated definition.2⟩) := by
  rw [readGroups, mapM_eq_ok_iff, List.forall₂_map_left_iff, List.forall₂_map_right_iff,
    List.forall₂_same]
  intro definition _
  exact bind_eq_ok_iff.2 ⟨definition.1, rfl,
    bind_eq_ok_iff.2 ⟨.ofCommaSeparated definition.2, rfl, rfl⟩⟩

/-- The data of raw sections are read section by section, with the groups that these define. -/
theorem ofData_rawSections (raw : PolicyText.RawSections) :
    Document.ofData (.ofValue raw.toValue) = (do
      match ← readSections (.ofValue raw.toValue) ((Table.remove groupsName raw).map fun part =>
          (.text part.1, .map (part.2.map fun entry => (.text entry.1, .ofText entry.2)))) with
      | .error fault => pure (.error fault)
      | .ok sections =>
          pure ((Document.ofParts sections (PolicyText.groupsOf raw)).mapError .document)) :=
  ofData_of_groups rfl rfl (readGroups_listed _ (raw.entries groupsName)) rfl

end Snapshot

namespace PolicyText

/-- A policy text and its raw sections, taken as the data of a snapshot, describe the same document,
and the same entries are left out in the same order and for the same reasons. -/
theorem parse_agrees_with_ofData (source text : String) :
    ∃ document, (parse source text).value = .ok document ∧
      (Document.ofData (.ofValue (readSections text).1.toValue)).value = .ok document ∧
      (Document.ofData (.ofValue (readSections text).1.toValue)).events =
        (parse source text).events.filterMap Event.skipped? := by
  rcases exists_parse_eq_ok source text with ⟨document, parsed⟩
  have made := parsed
  rw [value_parse] at made
  refine ⟨document, parsed, ?_, ?_⟩
  · rw [Snapshot.ofData_rawSections, Traced.value_bind, Snapshot.value_readSections_texts,
      Traced.value_pure]
    exact mapError_eq_ok_iff.2 made
  · rw [Snapshot.ofData_rawSections, Traced.events_bind, Snapshot.value_readSections_texts,
      Snapshot.events_readSections_texts, Traced.events_pure, List.append_nil, skipped_parse]

end PolicyText

end PathPolicy
