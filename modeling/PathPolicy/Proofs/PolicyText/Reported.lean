import PathPolicy.Proofs.PolicyText.Rejected
import PathPolicy.Proofs.PolicyText.Tokens

/-!
# Reports about a text

Reading a policy text drops nothing in silence.  Each line that says anything is accepted, or there
is one warning with its number.  Behind these warnings there is one for each section that has an
entry for a group without a name: every other key of an entry stands for a principal.  And what is
rejected has no effect, for the text with nothing in place of the rejected lines, except the broken
headers, describes the same document.
-/

namespace PathPolicy

/-! ## Keys that are no principals -/

/-- A token stands for a principal unless it is empty or marks a group without a name. -/
theorem Principal.exists_parse_eq_ok {token : String} (occupied : Text.trim token.toList ≠ [])
    (named : Text.trim token.toList ≠ ['@']) : ∃ principal, parse token = .ok principal := by
  by_cases star : Text.trim token.toList = ['*']
  · exact ⟨anyone, parse_eq_ok_iff.2 (readToken_eq_iff.2 ⟨star, rfl⟩)⟩
  · by_cases marked : (Text.trim token.toList).head? = some '@'
    · rcases List.head?_eq_some_iff.1 marked with ⟨name, isGroup⟩
      have nameOccupied : String.ofList name ≠ "" := by
        rintro empty
        rw [String.ofList_eq_empty_iff] at empty
        exact named (by rw [isGroup, empty])
      refine ⟨group ⟨String.ofList name, nameOccupied⟩, parse_eq_ok_iff.2 (readToken_eq_iff.2 ?_)⟩
      rw [isGroup, Principal.name, String.toList_ofList]
      rfl
    · have nameOccupied : String.ofList (Text.trim token.toList) ≠ "" := by
        rwa [Ne, String.ofList_eq_empty_iff]
      refine ⟨user ⟨String.ofList (Text.trim token.toList), nameOccupied⟩,
        parse_eq_ok_iff.2 (readToken_eq_iff.2 ⟨?_, star, marked⟩)⟩
      simp [Principal.name]

theorem Entry.parse_unnamed (permissions : String) :
    parse "@" permissions = .error (.unnamed .group) :=
  rfl

/-- An entry is made of every other key. -/
theorem Entry.exists_parse_eq_ok {key : String} (isKey : PolicyText.IsKey key.toList)
    (named : key ≠ "@") (permissions : String) :
    ∃ entry, parse key permissions = .ok entry := by
  have trimmed : Text.trim key.toList = key.toList := isKey.trimmed
  have occupied : Text.trim key.toList ≠ [] := by
    rw [trimmed]
    exact isKey.occupied
  have differs : Text.trim key.toList ≠ ['@'] := by
    rw [trimmed]
    intro same
    exact named (String.toList_inj.1 same)
  rcases Principal.exists_parse_eq_ok occupied differs with ⟨principal, parsed⟩
  exact ⟨.ofPermissions principal permissions, map_eq_ok_iff.2 ⟨principal, parsed, rfl⟩⟩

namespace PolicyText

/-! ## Entries that are left out -/

/-- The names of the sections that have an entry for a group without a name. -/
def namesWithUnnamed (raw : RawSections) : List String :=
  Table.keys (raw.filter fun part => part.2.keys.contains "@")

/-- The warning about the entry for a group without a name in a section. -/
def Event.unnamedSkipped (source name : String) : Event :=
  .entrySkipped source "@" name (.unnamed .group)

/-- Of the entries of a section the one for a group without a name is skipped, if there is one. -/
theorem events_readEntries {raw : Table String String}
    (isKey : ∀ pair ∈ raw, IsKey pair.1.toList) (distinct : raw.keys.Nodup)
    (source name : String) :
    (readEntries source name raw).events =
      if raw.keys.contains "@" then [.unnamedSkipped source name] else [] := by
  induction raw with
  | nil => rfl
  | cons pair rest inductionHypothesis =>
      rcases pair with ⟨key, permissions⟩
      rw [List.forall_mem_cons] at isKey
      rcases isKey with ⟨keyIsKey, restIsKey⟩
      rw [Table.keys, List.map_cons, List.nodup_cons] at distinct
      rcases distinct with ⟨absent, restDistinct⟩
      have later := inductionHypothesis restIsKey restDistinct
      have keys : (Table.keys ((key, permissions) :: rest)).contains "@" =
          ("@" == key || (Table.keys rest).contains "@") := List.contains_cons
      rw [readEntries, keys]
      by_cases unnamed : key = "@"
      · subst unnamed
        have noOther : (Table.keys rest).contains "@" = false := by
          simpa [Table.keys] using absent
        rw [noOther] at later
        rw [Entry.parse_unnamed, Traced.events_bind, later]
        rfl
      · rcases Entry.exists_parse_eq_ok keyIsKey unnamed permissions with ⟨entry, parsed⟩
        rw [parsed, Traced.events_map, later, beq_false_of_ne (Ne.symm unnamed), Bool.false_or]

/-- Of the sections those tell of a skipped entry that have one for a group without a name. -/
theorem events_readAllEntries {raw : RawSections}
    (isKey : ∀ part ∈ raw, ∀ pair ∈ part.2, IsKey pair.1.toList)
    (distinct : ∀ part ∈ raw, part.2.keys.Nodup) (source : String) :
    (readAllEntries source raw).events =
      (namesWithUnnamed raw).map (Event.unnamedSkipped source) := by
  induction raw with
  | nil => rfl
  | cons part rest inductionHypothesis =>
      rcases part with ⟨name, entries⟩
      rw [List.forall_mem_cons] at isKey distinct
      rw [readAllEntries, Traced.events_bind, Traced.events_bind, Traced.events_pure,
        List.append_nil, events_readEntries isKey.1 distinct.1,
        inductionHypothesis isKey.2 distinct.2, namesWithUnnamed, namesWithUnnamed,
        List.filter_cons]
      cases (Table.keys entries).contains "@" <;> rfl

theorem isKey_of_mem_remove {text : String} {part : String × Table String String}
    (member : part ∈ Table.remove groupsName (readSections text).1) :
    ∀ pair ∈ part.2, IsKey pair.1.toList := by
  intro pair listed
  exact ((readSections_contents text part (List.mem_of_mem_filter member)).2 pair listed).1

theorem exists_events_parse (source text : String) :
    ∃ sections groups, (parse source text).events =
      (readSections text).2.map (Event.lineSkipped source) ++
        (namesWithUnnamed (Table.remove groupsName (readSections text).1)).map
          (Event.unnamedSkipped source) ++
        [.finished source sections groups] := by
  have distinct : ∀ part ∈ Table.remove groupsName (readSections text).1, part.2.keys.Nodup := by
    intro part member
    exact (readSections_hasDistinctKeys text).keys part (List.mem_of_mem_filter member)
  have skipped := events_readAllEntries (fun _ => isKey_of_mem_remove) distinct source
  rcases exists_parse_eq_ok source text with ⟨document, parsed⟩
  rw [value_parse, ← value_readAllEntries source] at parsed
  refine ⟨document.sections.length, document.groups.length, ?_⟩
  simp only [parse, Traced.events_bind, skipped, parsed, Traced.events_note, Traced.events_pure,
    List.append_nil, List.append_assoc]

/-- The pairs of a section are read as its entries one by one, without the one for a group without a
name. -/
theorem forall₂_ofTexts {pairs : Table String String}
    (isKey : ∀ pair ∈ pairs, IsKey pair.1.toList) :
    List.Forall₂ (fun pair entry => Entry.parse pair.1 pair.2 = .ok entry) (pairs.remove "@")
      (Entry.ofTexts pairs) := by
  induction pairs with
  | nil => exact List.Forall₂.nil
  | cons pair rest inductionHypothesis =>
      rcases pair with ⟨key, permissions⟩
      rw [List.forall_mem_cons] at isKey
      rcases isKey with ⟨keyIsKey, restIsKey⟩
      by_cases unnamed : key = "@"
      · subst unnamed
        have dropped : Table.remove "@" (("@", permissions) :: rest) = Table.remove "@" rest :=
          List.filter_cons_of_neg (by simp)
        have noEntry : Entry.ofTexts (("@", permissions) :: rest) = Entry.ofTexts rest :=
          List.filterMap_cons_none (congrArg Except.toOption (Entry.parse_unnamed permissions))
        rw [dropped, noEntry]
        exact inductionHypothesis restIsKey
      · rcases Entry.exists_parse_eq_ok keyIsKey unnamed permissions with ⟨entry, parsed⟩
        have kept : Table.remove "@" ((key, permissions) :: rest) =
            (key, permissions) :: Table.remove "@" rest :=
          List.filter_cons_of_pos (by simpa using unnamed)
        have made : Entry.ofTexts ((key, permissions) :: rest) = entry :: Entry.ofTexts rest :=
          List.filterMap_cons_some (congrArg Except.toOption parsed)
        rw [kept, made]
        exact List.Forall₂.cons parsed (inductionHypothesis restIsKey)

/-- A section has the entries of a raw one in their order, except the one for a group without a
name. -/
structure IsReadFrom (raw : String × Table String String) (part : Section) : Prop where
  name : part.name = raw.1
  entries : List.Forall₂ (fun pair entry => Entry.parse pair.1 pair.2 = .ok entry)
    (raw.2.remove "@") part.entries

/-! ## Reports -/

/-- What is told about a text while it is read from a source. -/
structure IsReported (source text : String) : Prop where
  /-- A line that is neither blank nor a comment is accepted and there is no warning about it, or it
  is not accepted, changes no section, and there is exactly one warning about it. -/
  lines : ∀ before line after, Text.splitLines text.toList = before ++ line :: after →
    Line.ofText line ≠ .blank → Line.ofText line ≠ .comment →
      Reading.Accepts (readingOf before) (readingOf (before ++ [line])) (.ofText line) ∧
          warningsOn text (before.length + 1) = [] ∨
        ¬ Reading.Accepts (readingOf before) (readingOf (before ++ [line])) (.ofText line) ∧
          (readingOf (before ++ [line])).sections = (readingOf before).sections ∧
          ∃ fault, warningsOn text (before.length + 1) = [⟨before.length + 1, fault⟩]
  /-- No warning is about anything but such a line. -/
  numbers : ∀ warning ∈ (readSections text).2, ∃ before line after,
    Text.splitLines text.toList = before ++ line :: after ∧ warning.line = before.length + 1 ∧
      Line.ofText line ≠ .blank ∧ Line.ofText line ≠ .comment
  /-- The warnings about lines are in the order of the lines. -/
  inOrder : ((readSections text).2.map LineWarning.line).Pairwise (· < ·)
  /-- The warnings in the log are those about lines and one for each section, other than that of the
  groups, that has an entry for a group without a name. -/
  log : ((parse source text).events.map Event.record).filter (fun record =>
      record.level = .warning) =
    ((readSections text).2.map (Event.lineSkipped source) ++
      (namesWithUnnamed (Table.remove groupsName (readSections text).1)).map
        (Event.unnamedSkipped source)).map Event.record
  /-- That entry is left out of its section, and nothing else is. -/
  leftOut : ∃ document, (parse source text).value = .ok document ∧
    List.Forall₂ IsReadFrom (Table.remove groupsName (readSections text).1) document.sections
  /-- Nothing of the document is lost with what is in the rejected lines, except those that begin
  with a bracket in the first column. -/
  cleared : (parse source (clearedText text)).value = (parse source text).value
  /-- The same goes for every text that has empty lines in place of those. -/
  clears : ∀ other,
    Clears text 1 (Text.splitLines text.toList) (Text.splitLines other.toList) →
      (parse source other).value = (parse source text).value

/-- The warnings in the log of a text. -/
theorem filter_warning_records_parse (source text : String) :
    ((parse source text).events.map Event.record).filter (fun record =>
        record.level = .warning) =
      ((readSections text).2.map (Event.lineSkipped source) ++
        (namesWithUnnamed (Table.remove groupsName (readSections text).1)).map
          (Event.unnamedSkipped source)).map Event.record := by
  rcases exists_events_parse source text with ⟨sections, groups, events⟩
  have allWarnings : ∀ record ∈ ((readSections text).2.map (Event.lineSkipped source) ++
      (namesWithUnnamed (Table.remove groupsName (readSections text).1)).map
        (Event.unnamedSkipped source)).map Event.record, record.level = .warning := by
    intro record member
    rcases List.mem_map.1 member with ⟨event, listed, rfl⟩
    rcases List.mem_append.1 listed with isLine | isEntry
    · rcases List.mem_map.1 isLine with ⟨warning, _, rfl⟩
      rfl
    · rcases List.mem_map.1 isEntry with ⟨name, _, rfl⟩
      rfl
  have isDebug : ([Event.finished source sections groups].map Event.record).filter (fun record =>
      record.level = .warning) = [] := rfl
  rw [events, List.map_append, List.filter_append,
    List.filter_eq_self.2 (by simpa using allWarnings), isDebug, List.append_nil]

/-- Nothing in a text is dropped in silence, and nothing that is rejected has an effect: every line
that says something is accepted or reported under its number, in the order of the lines, what is
left out of a section is reported behind that, and rejected lines might as well be empty. -/
theorem parse_isReported (source text : String) : IsReported source text := by
  have sameDocument : ∀ other,
      Clears text 1 (Text.splitLines text.toList) (Text.splitLines other.toList) →
        (parse source other).value = (parse source text).value := by
    intro other clears
    rw [value_parse, value_parse, readSections_of_clears clears]
  refine
    { lines := fun before line after split => accepts_or_warningsOn split
      numbers := fun warning => exists_line_of_mem_warnings
      inOrder := Reading.pairwise_line_run Reading.start 1 (linesOf text)
      log := filter_warning_records_parse source text
      leftOut := ?_
      cleared := sameDocument _ (clears_clearedText text)
      clears := sameDocument }
  rcases exists_parse_eq_ok source text with ⟨document, parsed⟩
  refine ⟨document, parsed, ?_⟩
  rw [(parts_of_parse parsed).1, List.forall₂_map_right_iff, List.forall₂_same]
  intro part member
  exact ⟨rfl, forall₂_ofTexts (isKey_of_mem_remove member)⟩

end PolicyText

end PathPolicy
