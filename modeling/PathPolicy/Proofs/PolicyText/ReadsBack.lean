import PathPolicy.Proofs.PolicyText.Writable
import PathPolicy.Proofs.Table.Pairs

/-!
# Texts that are read back

Raw sections are written with a header for each section and a line for each key with its value.
Where the names can be written and no key occurs twice, the text is read as these very sections, and
nothing is wrong with any of its lines.  A writable document is written as such sections, so that
the documents that a text can describe are the writable ones.
-/

namespace PathPolicy

namespace PolicyText

/-! ## Raw sections -/

namespace RawSections

/-- The line that an entry of a raw section takes. -/
def entryLine (pair : String × String) : List Char :=
  Line.entryText pair.1.toList pair.2.toList

/-- The lines of some raw sections: a header for each of them, with the lines of its entries. -/
def lines (sections : RawSections) : List (List Char) :=
  sections.flatMap fun part => Line.headerText part.1.toList :: part.2.map entryLine

/-- The text of some raw sections. -/
def text (sections : RawSections) : String :=
  String.ofList (Text.unlines sections.lines)

/-- Raw sections can be written when each name can stand in a header, each key in front of an equals
sign and each value behind it. -/
abbrev AreWritable (sections : RawSections) : Prop :=
  sections.Holds (fun name => IsSectionName name.toList)
    (fun key value => IsKey key.toList ∧ Text.IsTrimmed value.toList ∧
      Text.IsUnbroken value.toList)

end RawSections

namespace Reading

/-- Some lines lead from one reading to another, and nothing is wrong with any of them. -/
def LeadTo (lines : List Line) (source target : Reading) : Prop :=
  ∀ number, source.run number lines = (target, [])

variable {source middle target : Reading}

theorem LeadTo.refl (reading : Reading) : LeadTo [] reading reading :=
  fun _ => rfl

theorem LeadTo.cons {line : Line} {rest : List Line} (step : source.step line = (middle, none))
    (later : LeadTo rest middle target) : LeadTo (line :: rest) source target := by
  intro number
  rw [run_cons, step, later]
  rfl

theorem LeadTo.trans {first second : List Line} (former : LeadTo first source middle)
    (later : LeadTo second middle target) : LeadTo (first ++ second) source target := by
  intro number
  have ends : source.reached first = middle := by rw [← run_fst source number, former]
  rw [run_append, ends, later, former]
  rfl

variable {earlier : RawSections} {name : String}

theorem step_entry {done : Table String String} {openKey : Option String}
    (absent : name ∉ earlier.keys) {key value : String} (new : key ∉ done.keys) :
    step ⟨earlier ++ [(name, done)], some name, openKey⟩ (.entry key.toList value.toList) =
      (⟨earlier ++ [(name, done ++ [(key, value)])], some name, some key⟩, none) := by
  have found : RawSections.entries (earlier ++ [(name, done)]) name = done := by
    rw [RawSections.entries, Table.get?_append_of_not_mem_keys absent]
    simp [Table.get?]
  have placed : RawSections.putEntry (earlier ++ [(name, done)]) name key value =
      earlier ++ [(name, done ++ [(key, value)])] := by
    rw [RawSections.putEntry, found, Table.put_append_of_not_mem_keys absent,
      Table.put_of_not_mem_keys new]
    simp [Table.put]
  simp only [step, String.ofList_toList, placed]

theorem step_header {current openKey : Option String} (absent : name ∉ earlier.keys) :
    step ⟨earlier, current, openKey⟩ (.header name.toList) =
      (⟨earlier ++ [(name, [])], some name, none⟩, none) := by
  have missing : RawSections.entries earlier name = [] := by
    rw [RawSections.entries, ← List.append_nil earlier,
      Table.get?_append_of_not_mem_keys absent]
    rfl
  have opened : RawSections.openSection earlier name = earlier ++ [(name, [])] := by
    rw [RawSections.openSection, missing, Table.put_of_not_mem_keys absent]
  simp only [step, String.ofList_toList, opened]

/-- Entries with new keys that differ go to the end of the section that is open. -/
theorem leadTo_entries {done pairs : Table String String} {openKey : Option String}
    (absent : name ∉ earlier.keys) (distinct : (Table.keys (done ++ pairs)).Nodup) :
    ∃ lastKey, LeadTo (pairs.map fun pair => .entry pair.1.toList pair.2.toList)
      ⟨earlier ++ [(name, done)], some name, openKey⟩
      ⟨earlier ++ [(name, done ++ pairs)], some name, lastKey⟩ := by
  -- The induction moves one pair at a time from those to come to those that are done.
  induction pairs generalizing done openKey with
  | nil =>
      rw [List.append_nil]
      exact ⟨openKey, .refl _⟩
  | cons pair rest inductionHypothesis =>
      rcases pair with ⟨key, value⟩
      have new : key ∉ done.keys := Table.not_mem_keys_of_nodup_keys distinct
      rw [List.append_cons done] at distinct ⊢
      rcases inductionHypothesis distinct with ⟨lastKey, later⟩
      exact ⟨lastKey, .cons (step_entry absent new) later⟩

/-- Sections with new names that differ go to the end, with all their entries. -/
theorem leadTo_sections {sections : RawSections} {current openKey : Option String}
    (namesDistinct : (Table.keys (earlier ++ sections)).Nodup)
    (keysDistinct : ∀ part ∈ sections, part.2.keys.Nodup) :
    ∃ lastName lastKey, LeadTo
      (sections.flatMap fun part =>
        .header part.1.toList :: part.2.map fun pair => .entry pair.1.toList pair.2.toList)
      ⟨earlier, current, openKey⟩ ⟨earlier ++ sections, lastName, lastKey⟩ := by
  induction sections generalizing earlier current openKey with
  | nil =>
      rw [List.append_nil]
      exact ⟨current, openKey, .refl _⟩
  | cons part rest inductionHypothesis =>
      rcases part with ⟨name, pairs⟩
      rw [List.forall_mem_cons] at keysDistinct
      rcases keysDistinct with ⟨pairsDistinct, restDistinct⟩
      have entriesDistinct : (Table.keys ([] ++ pairs)).Nodup := pairsDistinct
      have absent : name ∉ earlier.keys := Table.not_mem_keys_of_nodup_keys namesDistinct
      have opened : LeadTo [.header name.toList] ⟨earlier, current, openKey⟩
          ⟨earlier ++ [(name, [])], some name, none⟩ := .cons (step_header absent) (.refl _)
      rcases leadTo_entries absent entriesDistinct with ⟨middleKey, entered⟩
      rw [List.append_cons earlier] at namesDistinct ⊢
      rcases inductionHypothesis namesDistinct restDistinct with ⟨lastName, lastKey, later⟩
      exact ⟨lastName, lastKey, .trans (.cons (step_header absent) entered) later⟩

end Reading

namespace RawSections

variable {sections : RawSections}

theorem map_ofText_lines (writable : sections.AreWritable) :
    sections.lines.map Line.ofText = sections.flatMap fun part =>
      .header part.1.toList :: part.2.map fun pair => .entry pair.1.toList pair.2.toList := by
  rw [lines, List.map_flatMap]
  apply List.flatMap_congr
  intro part member
  rcases writable part member with ⟨isName, entries⟩
  rw [List.map_cons, Line.ofText_headerText isName, List.map_map]
  refine congrArg (_ :: ·) (List.map_congr_left ?_)
  intro pair listed
  rcases entries pair listed with ⟨isKey, trimmed, _⟩
  exact Line.ofText_entryText isKey trimmed

theorem isUnbroken_of_mem_lines (writable : sections.AreWritable) {line : List Char}
    (member : line ∈ sections.lines) : Text.IsUnbroken line := by
  rcases List.mem_flatMap.1 member with ⟨part, present, isLine⟩
  rcases writable part present with ⟨isName, entries⟩
  rcases List.mem_cons.1 isLine with rfl | isEntry
  · exact Line.isUnbroken_headerText isName.unbroken
  · rcases List.mem_map.1 isEntry with ⟨pair, listed, rfl⟩
    rcases entries pair listed with ⟨isKey, _, unbroken⟩
    exact Line.isUnbroken_entryText isKey.unbroken unbroken

end RawSections

theorem readSections_text {sections : RawSections} (distinct : sections.HasDistinctKeys)
    (writable : sections.AreWritable) : readSections sections.text = (sections, []) := by
  have lines : linesOf sections.text = sections.flatMap fun part =>
      .header part.1.toList :: part.2.map fun pair => .entry pair.1.toList pair.2.toList := by
    rw [linesOf, RawSections.text, String.toList_ofList,
      Text.splitLines_unlines fun _ => RawSections.isUnbroken_of_mem_lines writable,
      RawSections.map_ofText_lines writable]
  have namesDistinct : (Table.keys ([] ++ sections)).Nodup := distinct.names
  rcases Reading.leadTo_sections namesDistinct distinct.keys with ⟨lastName, lastKey, read⟩
  rw [readSections, lines, Reading.start, read]
  rfl

/-! ## Documents -/

theorem readEntries_texts (source sectionName : String) {entries : List Entry}
    (spelledOut : ∀ entry ∈ entries, entry.principal.IsSpelledOut) :
    readEntries source sectionName
      (entries.map fun entry => (entry.principal.text, entry.permissions)) = pure entries := by
  induction entries with
  | nil => rfl
  | cons entry rest inductionHypothesis =>
      rw [List.forall_mem_cons] at spelledOut
      rcases spelledOut with ⟨entrySpelled, restSpelled⟩
      simp only [List.map_cons, readEntries, Entry.parse_text_permissions entrySpelled,
        inductionHypothesis restSpelled]
      rfl

theorem readAllEntries_texts (source : String) {sections : List Section}
    (spelledOut : ∀ part ∈ sections, ∀ entry ∈ part.entries, entry.principal.IsSpelledOut) :
    readAllEntries source (sections.map fun part =>
      (part.name, part.entries.map fun entry => (entry.principal.text, entry.permissions))) =
        pure sections := by
  induction sections with
  | nil => rfl
  | cons part rest inductionHypothesis =>
      rw [List.forall_mem_cons] at spelledOut
      rcases spelledOut with ⟨partSpelled, restSpelled⟩
      simp only [List.map_cons, readAllEntries, readEntries_texts source part.name partSpelled,
        inductionHypothesis restSpelled]
      rfl

theorem isSectionName_groupsName : IsSectionName groupsName.toList where
  occupied := by decide
  trimmed := by decide
  unclosed := by decide
  unbroken := by decide

theorem isTrimmed_permissions (access : Access) :
    Text.IsTrimmed access.permissions.toList ∧ Text.IsUnbroken access.permissions.toList := by
  rcases access with ⟨read, write⟩
  cases read <;> cases write <;> decide

end PolicyText

namespace Document

open PolicyText

variable {document : Document} {listing : MemberSet → List String}

/-- The raw sections of a document, with the members of each group as they are listed. -/
def rawSections (listing : MemberSet → List String) (document : Document) : RawSections :=
  (groupsName, document.groups.map fun group =>
      (group.name, String.ofList (listText ((listing group.members).map String.toList)))) ::
    document.sections.map fun part =>
      (part.name, part.entries.map fun entry => (entry.principal.text, entry.permissions))

/-- The policy text of a document: the definitions of its groups, and then its sections. -/
def policyText (listing : MemberSet → List String) (document : Document) : String :=
  (document.rawSections listing).text

/-- A listing gives the members of every set and nothing else, in any order. -/
def Lists (listing : MemberSet → List String) : Prop :=
  ∀ members name, name ∈ listing members ↔ name ∈ members

namespace IsWritable

/-- Principals that are writable are told apart by their texts. -/
theorem hasDistinctPrincipals (writable : document.IsWritable) :
    document.HasDistinctPrincipals := by
  intro part member
  have toldApart : ∀ left ∈ part.entries.map Entry.principal,
      ∀ right ∈ part.entries.map Entry.principal, left.text = right.text → left = right := by
    intro left leftMember right rightMember same
    rcases List.mem_map.1 leftMember with ⟨leftEntry, leftListed, rfl⟩
    rcases List.mem_map.1 rightMember with ⟨rightEntry, rightListed, rfl⟩
    have leftSpelled := Principal.isWritable_iff.1 (writable.principals part member _ leftListed)
    have rightSpelled := Principal.isWritable_iff.1 (writable.principals part member _ rightListed)
    exact leftSpelled.1.eq_of_text_eq rightSpelled.1 same
  have distinct := List.Nodup.map_on toldApart (writable.principalsDistinct part member)
  rw [List.map_map] at distinct
  exact distinct

theorem hasDistinctKeys (writable : document.IsWritable) (listing : MemberSet → List String) :
    (document.rawSections listing).HasDistinctKeys := by
  constructor
  · rw [rawSections, Table.keys, List.map_cons, List.map_map, List.nodup_cons]
    refine ⟨?_, document.sectionsDistinct⟩
    intro reserved
    rcases List.mem_map.1 reserved with ⟨part, member, same⟩
    exact document.unreserved part member same
  · intro raw rawMember
    rcases List.mem_cons.1 rawMember with rfl | isSection
    · rw [Table.keys, List.map_map]
      exact document.groupsDistinct
    · rcases List.mem_map.1 isSection with ⟨part, member, rfl⟩
      rw [Table.keys, List.map_map]
      exact writable.hasDistinctPrincipals part member

theorem isMember_of_mem_listing (writable : document.IsWritable) (lists : Lists listing)
    {group : Group} (member : group ∈ document.groups) :
    ∀ name ∈ listing group.members, IsMember name.toList := by
  intro name listed
  exact writable.members group member name ((lists group.members name).1 listed)

/-- What is written of a writable document can be written. -/
theorem areWritable (writable : document.IsWritable) (lists : Lists listing) :
    (document.rawSections listing).AreWritable := by
  intro raw rawMember
  rcases List.mem_cons.1 rawMember with rfl | isSection
  · refine ⟨isSectionName_groupsName, ?_⟩
    intro pair listed
    rcases List.mem_map.1 listed with ⟨group, member, rfl⟩
    refine ⟨writable.groupNames group member, ?_⟩
    rw [String.toList_ofList]
    apply isTrimmed_listText
    intro name inList
    rcases List.mem_map.1 inList with ⟨user, isMember, rfl⟩
    exact writable.isMember_of_mem_listing lists member user isMember
  · rcases List.mem_map.1 isSection with ⟨part, member, rfl⟩
    refine ⟨writable.sectionNames part member, ?_⟩
    intro pair listed
    rcases List.mem_map.1 listed with ⟨entry, entryMember, rfl⟩
    have isKey := (Principal.isWritable_iff.1 (writable.principals part member _ entryMember)).2
    exact ⟨isKey, isTrimmed_permissions entry.grants⟩

/-- The groups are read back from the definitions that are written. -/
theorem groupsOf_rawSections (writable : document.IsWritable) (lists : Lists listing) :
    groupsOf (document.rawSections listing) = document.groups := by
  have found : (document.rawSections listing).entries groupsName = document.groups.map fun group =>
      (group.name, String.ofList (listText ((listing group.members).map String.toList))) := by
    rw [RawSections.entries, rawSections, Table.get?, if_pos (beq_self_eq_true groupsName)]
    rfl
  rw [groupsOf, found, List.map_map]
  conv_rhs => rw [← List.map_id document.groups]
  apply List.map_congr_left
  intro group member
  have sameMembers : MemberSet.ofList (listing group.members) = group.members :=
    MemberSet.eq_of_mem_iff fun name => MemberSet.mem_ofList.trans (lists group.members name)
  have read := MemberSet.ofCommaSeparated_listText (writable.isMember_of_mem_listing lists member)
  rw [sameMembers] at read
  exact congrArg (Group.mk group.name) read

theorem remove_groupsName_rawSections (listing : MemberSet → List String) (document : Document) :
    Table.remove groupsName (document.rawSections listing) = document.sections.map fun part =>
      (part.name, part.entries.map fun entry => (entry.principal.text, entry.permissions)) := by
  rw [rawSections, Table.remove, List.filter_cons_of_neg (by simp), List.filter_eq_self]
  intro raw rawMember
  rcases List.mem_map.1 rawMember with ⟨part, member, rfl⟩
  simpa using document.unreserved part member

/-- A writable document is read back from its text, and nothing is skipped. -/
theorem parse_policyText (writable : document.IsWritable) (lists : Lists listing)
    (source : String) :
    parse source (document.policyText listing) =
      ⟨[.finished source document.sections.length document.groups.length], .ok document⟩ := by
  have read : readSections (document.policyText listing) = (document.rawSections listing, []) :=
    readSections_text (writable.hasDistinctKeys listing) (writable.areWritable lists)
  have spelledOut : ∀ part ∈ document.sections, ∀ entry ∈ part.entries,
      entry.principal.IsSpelledOut := by
    intro part member entry entryMember
    exact (Principal.isWritable_iff.1 (writable.principals part member entry entryMember)).1
  simp only [parse, read, remove_groupsName_rawSections, readAllEntries_texts source spelledOut,
    writable.groupsOf_rawSections lists, bind, Traced.andThen, pure, Traced.quiet, List.map_nil,
    List.nil_append, ofParts_sections_groups]
  rfl

end IsWritable

end Document

namespace PolicyText

/-- Every text can be read, and while its lines are a continuation finds the value that it extends.
The documents that texts describe are the writable ones, and the text that is written of one is read
as this document with nothing skipped, in whatever order the members of its groups are listed. -/
theorem parse_describes_exactly_writable :
    (∀ source text, ∃ document, (parse source text).value = .ok document) ∧
      (∀ lines, (readingOf lines).IsAnchored) ∧
      (∀ source, ∀ document : Document,
        (∃ text, (parse source text).value = .ok document) ↔ document.IsWritable) ∧
      ∀ listing, Document.Lists listing → ∀ document : Document, document.IsWritable →
        ∀ source, parse source (document.policyText listing) =
          ⟨[.finished source document.sections.length document.groups.length], .ok document⟩ := by
  refine ⟨exists_parse_eq_ok, readingOf_isAnchored, ?_, ?_⟩
  · intro source document
    constructor
    · rintro ⟨text, parsed⟩
      exact isWritable_of_parse parsed
    · intro writable
      have lists : Document.Lists MemberSet.toList := fun _ _ => Iff.rfl
      exact ⟨document.policyText MemberSet.toList,
        congrArg Traced.value (writable.parse_policyText lists source)⟩
  · intro listing lists document writable source
    exact writable.parse_policyText lists source

/-- A document with a group and two entries for one path. -/
def watchedTower : Document where
  sections := [⟨"/tower", [⟨.anyone, .only .read⟩, ⟨.group ⟨"watch", by decide⟩, .both⟩]⟩]
  groups := [⟨"watch", .ofList ["warden", "ranger"]⟩]
  unreserved := by decide
  sectionsDistinct := by decide
  groupsDistinct := by decide

/-- The text of the document lists the members of its group in rising order and is read back. -/
theorem watchedTower_reads_back :
    watchedTower.policyText MemberSet.toList =
        "[groups]\nwatch = ranger, warden\n[/tower]\n* = r\n@watch = rw\n" ∧
      parse "keep" (watchedTower.policyText MemberSet.toList) =
        ⟨[.finished "keep" 1 1], .ok watchedTower⟩ := by
  have described : ∃ text, (parse "keep" text).value = .ok watchedTower :=
    ⟨"[groups]\nwatch = ranger,warden\n[/tower]\n*: r\n@watch: rw", by decide +kernel⟩
  have writable := (parse_describes_exactly_writable.2.2.1 "keep" watchedTower).1 described
  refine ⟨by decide +kernel, ?_⟩
  exact parse_describes_exactly_writable.2.2.2 MemberSet.toList (fun _ _ => Iff.rfl) watchedTower
    writable "keep"

end PolicyText

end PathPolicy
