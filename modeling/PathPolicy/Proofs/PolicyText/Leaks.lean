import PathPolicy.Proofs.PolicyText.Runs
import PathPolicy.Proofs.PolicyText.Tokens
import PathPolicy.Proofs.Table.Pairs
import PathPolicy.Proofs.Text.Lines

/-!
# Lines below a broken header

A line that begins with a bracket and is skipped should close the section in front of it,
so that the lines below it, which were written for another section, have no say in the
document.  A line that begins in the first column does.  An indented one is taken for a
continuation: it changes nothing at all, and what is below it belongs to the section that
was open before.
-/

namespace PathPolicy.PolicyText

/-- A line opens a section. -/
def Line.IsHeader (line : Line) : Prop :=
  ∃ name, line = .header name

/-- Two texts begin with the same lines and differ in nothing but the lines behind these, up
to the next section header or the end. -/
inductive DifferBehind (first : List (List Char)) (text other : String) : Prop
  | intro (between otherBetween after : List (List Char))
      (noHeader : ∀ line ∈ between, ¬ (Line.ofText line).IsHeader)
      (otherNoHeader : ∀ line ∈ otherBetween, ¬ (Line.ofText line).IsHeader)
      (header : ∀ line ∈ after.head?, (Line.ofText line).IsHeader)
      (lines : Text.splitLines text.toList = first ++ between ++ after)
      (otherLines : Text.splitLines other.toList = first ++ otherBetween ++ after)

/-- The lines behind some others, up to the next section header, have a say in the document:
texts that differ in them alone can describe different documents. -/
def LeaksBehind (first : List (List Char)) : Prop :=
  ∃ source text other, DifferBehind first text other ∧
    (parse source text).value ≠ (parse source other).value

/-! ## Closed sections -/

namespace Reading

/-- A reading of some sections none of which is open. -/
def closed (sections : RawSections) : Reading :=
  ⟨sections, none, none⟩

theorem step_closed (sections : RawSections) {line : Line} (noHeader : ¬ line.IsHeader) :
    ((closed sections).step line).1 = closed sections := by
  cases line with
  | header name => exact absurd ⟨name, rfl⟩ noHeader
  | _ => rfl

/-- Lines without a header change nothing where no section is open. -/
theorem reached_closed (sections : RawSections) {lines : List Line}
    (noHeader : ∀ line ∈ lines, ¬ line.IsHeader) :
    (closed sections).reached lines = closed sections := by
  induction lines with
  | nil => rfl
  | cons line rest inductionHypothesis =>
      obtain ⟨lineNoHeader, restNoHeader⟩ := List.forall_mem_cons.1 noHeader
      rw [reached_cons, step_closed sections lineNoHeader, inductionHypothesis restNoHeader]

/-- A key is only open in a section that is. -/
def IsTidy (reading : Reading) : Prop :=
  reading.current = none → reading.openKey = none

theorem step_isTidy (reading : Reading) (line : Line) (tidy : reading.IsTidy) :
    (reading.step line).1.IsTidy := by
  cases line with
  | comment => exact tidy
  | continuation text =>
      simp only [step]
      split
      · intro noSection
        cases noSection
      · exact tidy
  | header name =>
      intro noSection
      cases noSection
  | entry key value =>
      simp only [step]
      split
      · intro noSection
        cases noSection
      · intro _
        rfl
  | _ =>
      intro _
      rfl

end Reading

/-- While the lines of a text are read, a key is only open in a section that is. -/
theorem readingOf_isTidy (lines : List (List Char)) : (readingOf lines).IsTidy :=
  readingOf_keeps Reading.IsTidy Reading.step_isTidy (fun _ => rfl) lines

theorem readingOf_eq_closed {lines : List (List Char)} (noSection : (readingOf lines).current = none) :
    readingOf lines = .closed (readingOf lines).sections := by
  have noKey := readingOf_isTidy lines noSection
  generalize readingOf lines = reading at noSection noKey ⊢
  obtain ⟨sections, current, openKey⟩ := reading
  cases noSection
  cases noKey
  rfl

/-! ## Lines that begin with a bracket -/

/-- An indented line is a continuation, another one that begins with a bracket a header or a
broken one. -/
theorem Line.ofText_of_bracket {line : List Char} (bracket : (Text.trim line).head? = some '[') :
    (isIndented line = true ∧ ofText line = .continuation (Text.trim line)) ∨
      isIndented line = false ∧ (ofText line = .brokenHeader ∨ (ofText line).IsHeader) := by
  obtain ⟨rest, trimmed⟩ : ∃ rest, Text.trim line = '[' :: rest := List.head?_eq_some_iff.1 bracket
  have noComment : opensComment '[' = false := rfl
  rw [ofText, trimmed]
  cases indented : isIndented line with
  | true => simp [noComment]
  | false =>
      right
      simp only [noComment, Bool.false_eq_true, if_false, if_true, true_and]
      rw [ofBracketed]
      split
      · split
        · exact Or.inl rfl
        · exact Or.inr ⟨_, rfl⟩
      · exact Or.inl rfl

/-- A skipped line that begins with a bracket in the first column closes the section, and an
indented one changes nothing. -/
theorem readingOf_concat_of_rejected {before : List (List Char)} {line : List Char}
    (bracket : (Text.trim line).head? = some '[') {fault : LineFault}
    (rejected : ((readingOf before).step (.ofText line)).2 = some fault) :
    readingOf (before ++ [line]) =
      if Line.isIndented line then readingOf before
      else .closed (readingOf before).sections := by
  rw [readingOf_concat]
  rcases Line.ofText_of_bracket bracket with ⟨indented, isLine⟩ | ⟨flush, isLine | ⟨name, isLine⟩⟩
  · rw [indented, if_pos rfl, isLine]
    rw [isLine] at rejected
    simp only [Reading.step] at rejected ⊢
    split at rejected
    · cases rejected
    · rfl
  · rw [flush, isLine]
    rfl
  · rw [isLine] at rejected
    cases rejected

/-! ## Warnings -/

theorem lineSkipped_not_mem_readEntries (source sectionName : String) (raw : Table String String)
    (warned : String) (warning : LineWarning) :
    Event.lineSkipped warned warning ∉ (readEntries source sectionName raw).events := by
  induction raw with
  | nil => simp [readEntries]
  | cons pair rest inductionHypothesis =>
      rw [readEntries]
      split <;> simpa using inductionHypothesis

theorem lineSkipped_not_mem_readAllEntries (source : String) (raw : RawSections) (warned : String)
    (warning : LineWarning) :
    Event.lineSkipped warned warning ∉ (readAllEntries source raw).events := by
  induction raw with
  | nil => simp [readAllEntries]
  | cons part rest inductionHypothesis =>
      simp [readAllEntries, lineSkipped_not_mem_readEntries, inductionHypothesis]

/-- The lines that are skipped with a warning are those that the sections are read without. -/
theorem lineSkipped_mem_parse_iff {source text : String} {warning : LineWarning} :
    .lineSkipped source warning ∈ (parse source text).events ↔
      warning ∈ (readSections text).2 := by
  have fromLines : Event.lineSkipped source warning ∈
      (readSections text).2.map (Event.lineSkipped source) ↔ warning ∈ (readSections text).2 :=
    List.mem_map_of_injective (fun _ _ same => (Event.lineSkipped.inj same).2)
  have notLater := lineSkipped_not_mem_readAllEntries source
    (Table.remove groupsName (readSections text).1) source warning
  simp only [parse, Traced.events_bind, List.mem_append, fromLines, notLater, false_or]
  constructor
  · rintro (warned | finished)
    · exact warned
    · split at finished <;> simp at finished
  · exact Or.inl

/-! ## Leaks -/

theorem readingOf_append_of_closed {first between after : List (List Char)}
    {sections : RawSections} (isClosed : readingOf first = .closed sections)
    (noHeader : ∀ line ∈ between, ¬ (Line.ofText line).IsHeader) :
    readingOf (first ++ between ++ after) = readingOf (first ++ after) := by
  have nothing : (Reading.closed sections).reached (between.map Line.ofText) =
      .closed sections := by
    apply Reading.reached_closed
    simpa using noHeader
  rw [readingOf_append, readingOf_append, readingOf_append, isClosed, nothing]

theorem not_leaksBehind_of_closed {first : List (List Char)} {sections : RawSections}
    (isClosed : readingOf first = .closed sections) : ¬ LeaksBehind first := by
  rintro ⟨source, text, other, ⟨between, otherBetween, after, noHeader, otherNoHeader, _, lines,
    otherLines⟩, differs⟩
  have sameReading : readingOf (Text.splitLines text.toList) =
      readingOf (Text.splitLines other.toList) := by
    rw [lines, otherLines, readingOf_append_of_closed isClosed noHeader,
      readingOf_append_of_closed isClosed otherNoHeader]
  have sameSections : (readSections text).1 = (readSections other).1 := by
    rw [readSections_fst, readSections_fst, sameReading]
  exact differs (by rw [value_parse, value_parse, sameSections])

theorem members_eq_of_groupsOf_putEntry_eq {sections : RawSections} {key value other : String}
    (same : groupsOf (sections.putEntry groupsName key value) =
      groupsOf (sections.putEntry groupsName key other)) :
    MemberSet.ofCommaSeparated value = MemberSet.ofCommaSeparated other := by
  simp only [groupsOf, RawSections.putEntry, RawSections.entries, Table.get?_put_self,
    Option.getD_some] at same
  simp only [← List.filterMap_eq_map'] at same
  have sameGroup := Table.eq_of_filterMap_put_eq same rfl rfl
  exact congrArg Group.members sameGroup

theorem entry_eq_of_sections_putEntry_eq {sections : RawSections} {name key value other : String}
    (unreserved : name ≠ groupsName)
    (same :
      (Table.remove groupsName (sections.putEntry name key value)).map (fun part =>
          (⟨part.1, Entry.ofTexts part.2⟩ : Section)) =
        (Table.remove groupsName (sections.putEntry name key other)).map fun part =>
          ⟨part.1, Entry.ofTexts part.2⟩)
    {entry otherEntry : Entry} (read : Entry.parse key value = .ok entry)
    (otherRead : Entry.parse key other = .ok otherEntry) : entry = otherEntry := by
  rw [RawSections.putEntry, RawSections.putEntry, Table.remove_put_of_ne unreserved,
    Table.remove_put_of_ne unreserved] at same
  simp only [← List.filterMap_eq_map'] at same
  have sameSection := Table.eq_of_filterMap_put_eq same rfl rfl
  have sameEntries := congrArg Section.entries sameSection
  exact Table.eq_of_filterMap_put_eq sameEntries (by rw [read]; rfl) (by rw [otherRead]; rfl)

theorem readSections_unlines_concat {first : List (List Char)}
    (unbroken : ∀ line ∈ first, Text.IsUnbroken line) {name : String}
    (isOpen : (readingOf first).current = some name) {line key value : List Char}
    (lineUnbroken : Text.IsUnbroken line) (isLine : Line.ofText line = .entry key value) :
    (readSections (String.ofList (Text.unlines (first ++ [line])))).1 =
      (readingOf first).sections.putEntry name (String.ofList key) (String.ofList value) := by
  rw [readSections_fst, Text.splitLines_unlines_concat unbroken lineUnbroken, readingOf_concat,
    isLine]
  simp only [Reading.step, isOpen]

theorem parts_eq_of_value_parse_eq {source text other : String}
    (same : (parse source text).value = (parse source other).value) :
    (Table.remove groupsName (readSections text).1).map (fun part =>
          (⟨part.1, Entry.ofTexts part.2⟩ : Section)) =
        ((Table.remove groupsName (readSections other).1).map fun part =>
          ⟨part.1, Entry.ofTexts part.2⟩) ∧
      groupsOf (readSections text).1 = groupsOf (readSections other).1 := by
  obtain ⟨document, parsed⟩ := exists_parse_eq_ok source text
  obtain ⟨sections, groups⟩ := parts_of_parse parsed
  rw [same] at parsed
  obtain ⟨otherSections, otherGroups⟩ := parts_of_parse parsed
  exact ⟨sections.symm.trans otherSections, groups.symm.trans otherGroups⟩

theorem differBehind_unlines {first : List (List Char)}
    (unbroken : ∀ line ∈ first, Text.IsUnbroken line) {line other key value otherKey otherValue :
    List Char} (lineUnbroken : Text.IsUnbroken line) (otherUnbroken : Text.IsUnbroken other)
    (isLine : Line.ofText line = .entry key value)
    (isOther : Line.ofText other = .entry otherKey otherValue) :
    DifferBehind first (String.ofList (Text.unlines (first ++ [line])))
      (String.ofList (Text.unlines (first ++ [other]))) := by
  refine ⟨[line], [other], [], ?_, ?_, by simp, ?_, ?_⟩
  · simp [isLine, Line.IsHeader]
  · simp [isOther, Line.IsHeader]
  · rw [Text.splitLines_unlines_concat unbroken lineUnbroken, List.append_nil]
  · rw [Text.splitLines_unlines_concat unbroken otherUnbroken, List.append_nil]

/-- Behind lines that leave a section open, what is written for a principal has a say. -/
theorem leaksBehind_of_open {first : List (List Char)}
    (unbroken : ∀ line ∈ first, Text.IsUnbroken line)
    (isOpen : (readingOf first).current.isSome) : LeaksBehind first := by
  obtain ⟨name, current⟩ := Option.isSome_iff_exists.1 isOpen
  have readUnbroken : Text.IsUnbroken "a=r".toList := by decide
  have writeUnbroken : Text.IsUnbroken "a=w".toList := by decide
  have readLine : Line.ofText "a=r".toList = .entry ['a'] ['r'] := by decide
  have writeLine : Line.ofText "a=w".toList = .entry ['a'] ['w'] := by decide
  refine ⟨"", _, _, differBehind_unlines unbroken readUnbroken writeUnbroken readLine writeLine, ?_⟩
  intro sameDocument
  obtain ⟨sameSections, sameGroups⟩ := parts_eq_of_value_parse_eq sameDocument
  rw [readSections_unlines_concat unbroken current readUnbroken readLine,
    readSections_unlines_concat unbroken current writeUnbroken writeLine] at sameSections sameGroups
  by_cases reserved : name = groupsName
  · subst reserved
    have sameMembers := members_eq_of_groupsOf_putEntry_eq sameGroups
    revert sameMembers
    decide
  · have read : Entry.parse (String.ofList ['a']) (String.ofList ['r']) =
        .ok ⟨.user ⟨"a", by decide⟩, ⟨true, false⟩⟩ := by decide
    have written : Entry.parse (String.ofList ['a']) (String.ofList ['w']) =
        .ok ⟨.user ⟨"a", by decide⟩, ⟨false, true⟩⟩ := by decide
    have sameEntry := entry_eq_of_sections_putEntry_eq reserved sameSections read written
    cases sameEntry

/-- Behind a line that begins with a bracket and is skipped with a warning, for whatever
reason, the lines up to the next section header have a say in the document exactly if that
line is indented and a section was open in front of it. -/
theorem leaksBehind_rejected_bracket_iff {source text : String} {before after : List (List Char)}
    {line : List Char} {fault : LineFault}
    (split : Text.splitLines text.toList = before ++ line :: after)
    (bracket : (Text.trim line).head? = some '[')
    (rejected : .lineSkipped source ⟨before.length + 1, fault⟩ ∈ (parse source text).events) :
    LeaksBehind (before ++ [line]) ↔
      Line.isIndented line = true ∧ (readingOf before).current.isSome := by
  rw [lineSkipped_mem_parse_iff, mem_readSections_snd_iff split] at rejected
  have reading := readingOf_concat_of_rejected bracket rejected
  have unbroken : ∀ any ∈ before ++ [line], Text.IsUnbroken any := by
    intro any member
    have isLine : any ∈ Text.splitLines text.toList := by
      rw [split, List.append_cons]
      exact List.mem_append_left after member
    exact Text.isUnbroken_of_mem_splitLinesAfter isLine
  cases indented : Line.isIndented line with
  | false =>
      rw [indented] at reading
      have isClosed : readingOf (before ++ [line]) = .closed (readingOf before).sections := reading
      simp [not_leaksBehind_of_closed isClosed]
  | true =>
      rw [indented, if_pos rfl] at reading
      cases isOpen : (readingOf before).current with
      | none =>
          have isClosed := reading.trans (readingOf_eq_closed isOpen)
          simp [not_leaksBehind_of_closed isClosed]
      | some name =>
          have stillOpen : (readingOf (before ++ [line])).current.isSome := by
            rw [reading, isOpen]
            rfl
          simp [leaksBehind_of_open unbroken stillOpen]

/-- Behind a bracket that is not closed, in the first column, nothing has a say. -/
theorem unclosedBracket_not_leaksBehind :
    .lineSkipped "policy" ⟨2, .brokenHeader⟩ ∈
        (parse "policy" "[/a]\n[/b\nalice = rw\n").events ∧
      ¬ LeaksBehind ["[/a]".toList, "[/b".toList] := by
  have split : Text.splitLines "[/a]\n[/b\nalice = rw\n".toList =
      ["[/a]".toList] ++ "[/b".toList :: ["alice = rw".toList] := by decide
  have rejected : Event.lineSkipped "policy" ⟨2, .brokenHeader⟩ ∈
      (parse "policy" "[/a]\n[/b\nalice = rw\n").events := by decide +kernel
  refine ⟨rejected, ?_⟩
  rw [← List.singleton_append, leaksBehind_rejected_bracket_iff split (by decide) rejected]
  decide

/-- A header that is indented is skipped, and the entry below it is taken into the section in
front of it. -/
theorem indentedHeader_leaks :
    Text.splitLines "[/a]\n [/b]\nalice = rw\n".toList =
        ["[/a]".toList, " [/b]".toList, "alice = rw".toList] ∧
      (Text.trim " [/b]".toList).head? = some '[' ∧
      .lineSkipped "policy" ⟨2, .strayContinuation⟩ ∈
        (parse "policy" "[/a]\n [/b]\nalice = rw\n").events ∧
      ¬ (Line.ofText "alice = rw".toList).IsHeader ∧
      (parse "policy" "[/a]\n [/b]\nalice = rw\n").value.map Document.sections =
        .ok [⟨"/a", [⟨.user ⟨"alice", by decide⟩, ⟨true, true⟩⟩]⟩] ∧
      (parse "policy" "[/a]\n [/b]\n").value.map Document.sections = .ok [⟨"/a", []⟩] := by
  have isEntry : Line.ofText "alice = rw".toList = .entry "alice".toList "rw".toList := by decide
  refine ⟨by decide, by decide, by decide +kernel, ?_, by decide +kernel, by decide +kernel⟩
  rw [isEntry, Line.IsHeader]
  simp

end PathPolicy.PolicyText
