import PathPolicy.PolicyText.Parse
import PathPolicy.Proofs.Document.Names

/-!
# Names in a policy text

Whatever the lines of a policy are, the sections that are read have distinct names, and
the keys of each are distinct.  With the section of the groups taken out this is what a
document asks of its parts, so every text has a document.
-/

namespace PathPolicy.PolicyText

/-- No name of a section and no key in a section occurs twice. -/
structure RawSections.HasDistinctKeys (sections : RawSections) : Prop where
  names : sections.keys.Nodup
  keys : ∀ part ∈ sections, part.2.keys.Nodup

namespace RawSections.HasDistinctKeys

variable {sections : RawSections}

theorem start : HasDistinctKeys [] :=
  ⟨by simp [Table.keys], by simp⟩

/-- The keys of a section are distinct, also of one that is not there. -/
theorem entries (distinct : sections.HasDistinctKeys) (name : String) :
    (sections.entries name).keys.Nodup := by
  rw [RawSections.entries]
  cases found : sections.get? name with
  | none => simp [Table.keys]
  | some raw => exact distinct.keys _ (Table.mem_of_get?_eq_some found)

theorem put (distinct : sections.HasDistinctKeys) {name : String} {raw : Table String String}
    (rawDistinct : raw.keys.Nodup) : HasDistinctKeys (Table.put name raw sections) := by
  refine ⟨Table.nodup_keys_put distinct.names name raw, ?_⟩
  intro part member
  rcases Table.eq_or_mem_of_mem_put member with rfl | old
  · exact rawDistinct
  · exact distinct.keys part old

theorem openSection (distinct : sections.HasDistinctKeys) (name : String) :
    (sections.openSection name).HasDistinctKeys :=
  distinct.put (distinct.entries name)

theorem putEntry (distinct : sections.HasDistinctKeys) (name key value : String) :
    (sections.putEntry name key value).HasDistinctKeys :=
  distinct.put (Table.nodup_keys_put (distinct.entries name) key value)

theorem extendEntry (distinct : sections.HasDistinctKeys) (name key continuation : String) :
    (sections.extendEntry name key continuation).HasDistinctKeys :=
  distinct.putEntry name key _

end RawSections.HasDistinctKeys

/-! ## Lines -/

namespace Reading

/-- What every step over one of some lines keeps is kept by the run over these lines. -/
theorem run_keeps_on (Keeps : Reading → Prop) {lines : List Line}
    (step : ∀ reading, ∀ line ∈ lines, Keeps reading → Keeps (reading.step line).1)
    {reading : Reading} (kept : Keeps reading) (number : Nat) :
    Keeps (reading.run number lines).1 := by
  induction lines generalizing reading number with
  | nil => exact kept
  | cons line rest inductionHypothesis =>
      have keptAfter := step reading line List.mem_cons_self kept
      exact inductionHypothesis
        (fun reached other member => step reached other (List.mem_cons_of_mem line member))
        keptAfter (number + 1)

theorem run_keeps (Keeps : Reading → Prop)
    (step : ∀ reading line, Keeps reading → Keeps (reading.step line).1) {reading : Reading}
    (kept : Keeps reading) (number : Nat) (lines : List Line) :
    Keeps (reading.run number lines).1 :=
  run_keeps_on Keeps (fun reading line _ => step reading line) kept number

/-- A step keeps all keys distinct, whatever the line is. -/
theorem step_hasDistinctKeys (reading : Reading) (line : Line)
    (distinct : reading.sections.HasDistinctKeys) :
    (reading.step line).1.sections.HasDistinctKeys := by
  cases line with
  | blank => exact distinct
  | comment => exact distinct
  | continuation text =>
      simp only [step]
      split
      · exact distinct.extendEntry _ _ _
      · exact distinct
  | header name => exact distinct.openSection _
  | brokenHeader => exact distinct
  | malformed text => exact distinct
  | entry key value =>
      simp only [step]
      split
      · exact distinct.putEntry _ _ _
      · exact distinct

end Reading

theorem readSections_hasDistinctKeys (text : String) : (readSections text).1.HasDistinctKeys :=
  Reading.run_keeps (fun reading => reading.sections.HasDistinctKeys)
    Reading.step_hasDistinctKeys RawSections.HasDistinctKeys.start 1 (linesOf text)

/-! ## The document -/

theorem map_name_readAllEntries (source : String) (raw : RawSections) :
    (readAllEntries source raw).value.map Section.name = raw.keys := by
  induction raw with
  | nil => rfl
  | cons part rest inductionHypothesis =>
      obtain ⟨name, entries⟩ := part
      simp only [Table.keys] at inductionHypothesis
      simp [readAllEntries, Table.keys, inductionHypothesis]

theorem map_name_groupsOf (raw : RawSections) :
    (groupsOf raw).map Group.name = (raw.entries groupsName).keys := by
  simp [groupsOf, Table.keys, Function.comp_def]

/-- Every text describes a document. -/
theorem exists_parse_eq_ok (source text : String) :
    ∃ document, (parse source text).value = .ok document := by
  have distinct := readSections_hasDistinctKeys text
  have names := map_name_readAllEntries source (Table.remove groupsName (readSections text).1)
  have unreserved : ∀ part ∈
      (readAllEntries source (Table.remove groupsName (readSections text).1)).value,
      part.name ≠ groupsName := by
    intro part member
    have listed := List.mem_map_of_mem (f := Section.name) member
    rw [names] at listed
    exact Table.ne_of_mem_keys_remove listed
  have sectionsDistinct : ((readAllEntries source
      (Table.remove groupsName (readSections text).1)).value.map Section.name).Nodup := by
    rw [names]
    exact Table.nodup_keys_remove distinct.names groupsName
  have groupsDistinct : ((groupsOf (readSections text).1).map Group.name).Nodup := by
    rw [map_name_groupsOf]
    exact distinct.entries groupsName
  obtain ⟨document, made⟩ :=
    Document.exists_ofParts_eq_ok unreserved sectionsDistinct groupsDistinct
  refine ⟨document, ?_⟩
  simp [parse, made]

end PathPolicy.PolicyText
