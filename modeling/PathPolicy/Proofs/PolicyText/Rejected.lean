import PathPolicy.Proofs.PolicyText.Leaks
import PathPolicy.Proofs.Text.EndedLines

/-!
# Rejected lines

A line of a policy text that says anything is accepted, or there is one warning about it.  What a
line says depends on the lines before it; but a line that is rejected says nothing, and where it
does not begin with a bracket in the first column it might as well be empty, or not be there at all
if that goes for every such line.
-/

namespace PathPolicy.PolicyText

/-! ## Lines -/

namespace Reading

/-- A line is accepted between two readings: a header opens its section, an entry is stored in the
section that is open, and a continuation is appended to the value of the key that is open. -/
inductive Accepts (before after : Reading) : Line → Prop
  | header {name : List Char} (present : String.ofList name ∈ after.sections.keys)
      (opens : after.current = some (String.ofList name)) : Accepts before after (.header name)
  | entry {key value : List Char} {name : String} (isOpen : before.current = some name)
      (stored : (after.sections.entries name).get? (String.ofList key) =
        some (String.ofList value)) : Accepts before after (.entry key value)
  | continuation {text : List Char} {name key value : String} (isOpen : before.current = some name)
      (keyOpen : before.openKey = some key)
      (found : (before.sections.entries name).get? key = some value)
      (appended : (after.sections.entries name).get? key =
        some (RawSections.joinValue value (String.ofList text))) :
      Accepts before after (.continuation text)

variable {reading : Reading} {line : Line} {fault : LineFault}

theorem get?_entries_putEntry (sections : RawSections) (name key value : String) :
    ((sections.putEntry name key value).entries name).get? key = some value := by
  rw [RawSections.entries, RawSections.putEntry, Table.get?_put_self, Option.getD_some,
    Table.get?_put_self]

/-- A line that says anything is accepted when nothing is wrong with it. -/
theorem accepts_step (anchored : reading.IsAnchored) (visible : line ≠ .blank)
    (noComment : line ≠ .comment) (faultless : (reading.step line).2 = none) :
    Accepts reading (reading.step line).1 line := by
  cases line with
  | blank => exact absurd rfl visible
  | comment => exact absurd rfl noComment
  | continuation text =>
      cases isOpen : reading.current with
      | none => simp [step, isOpen] at faultless
      | some name =>
          cases keyOpen : reading.openKey with
          | none => simp [step, isOpen, keyOpen] at faultless
          | some key =>
              rcases anchored.exists_get? isOpen keyOpen with ⟨value, found⟩
              refine .continuation isOpen keyOpen found ?_
              simp only [step, isOpen, keyOpen, RawSections.extendEntry, found, Option.getD_some]
              exact get?_entries_putEntry _ _ _ _
  | header name =>
      have found : ((reading.step (.header name)).1.sections.get? (String.ofList name)) =
          some (reading.sections.entries (String.ofList name)) := Table.get?_put_self _ _ _
      exact .header (List.mem_map_of_mem (Table.mem_of_get?_eq_some found)) rfl
  | brokenHeader => cases faultless
  | malformed text => cases faultless
  | entry key value =>
      cases isOpen : reading.current with
      | none => simp [step, isOpen] at faultless
      | some name =>
          refine .entry isOpen ?_
          simp only [step, isOpen]
          exact get?_entries_putEntry _ _ _ _

theorem not_accepts_of_fault {after : Reading} (rejected : (reading.step line).2 = some fault) :
    ¬ Accepts reading after line := by
  intro accepted
  cases accepted with
  | header present opens => cases rejected
  | entry isOpen stored => simp [step, isOpen] at rejected
  | continuation isOpen keyOpen found appended => simp [step, isOpen, keyOpen] at rejected

/-- A line that something is wrong with changes no section. -/
theorem sections_step_of_fault (rejected : (reading.step line).2 = some fault) :
    (reading.step line).1.sections = reading.sections := by
  cases line with
  | continuation text =>
      simp only [step] at rejected ⊢
      split at rejected
      · cases rejected
      · rfl
  | header name => cases rejected
  | entry key value =>
      simp only [step] at rejected ⊢
      split at rejected
      · cases rejected
      · rfl
  | _ => rfl

/-- A line that something is wrong with does what a blank line does, unless it is a broken
header. -/
theorem step_of_fault (tidy : reading.IsTidy) (rejected : (reading.step line).2 = some fault)
    (noHeader : line ≠ .brokenHeader) : (reading.step line).1 = (reading.step .blank).1 := by
  rcases reading with ⟨sections, current, openKey⟩
  cases line with
  | blank => cases rejected
  | comment => cases rejected
  | continuation text =>
      cases current with
      | none =>
          cases tidy rfl
          rfl
      | some name =>
          cases openKey with
          | none => rfl
          | some key => cases rejected
  | header name => cases rejected
  | brokenHeader => exact absurd rfl noHeader
  | malformed text => rfl
  | entry key value =>
      cases current with
      | none => rfl
      | some name => cases rejected

end Reading

/-- The warnings about the line of a number. -/
def warningsOn (text : String) (number : Nat) : List LineWarning :=
  (readSections text).2.filter fun warning => warning.line == number

theorem warningsOn_eq {text : String} {before after : List (List Char)} {line : List Char}
    (split : Text.splitLines text.toList = before ++ line :: after) :
    warningsOn text (before.length + 1) =
      (((readingOf before).step (.ofText line)).2.map
        (LineWarning.mk (before.length + 1))).toList := by
  have warnings : (readSections text).2 = (Reading.start.run 1 (linesOf text)).2 := rfl
  have numbered := Reading.filter_line_run Reading.start 1 (before.map Line.ofText)
    (Line.ofText line) (after.map Line.ofText)
  rw [List.length_map, Nat.add_comm] at numbered
  rw [warningsOn, warnings, linesOf_of_split split, numbered]
  rfl

/-- A line that is neither blank nor a comment is accepted where the lines before it lead, or there
is exactly one warning about it. -/
theorem accepts_or_warningsOn {text : String} {before after : List (List Char)} {line : List Char}
    (split : Text.splitLines text.toList = before ++ line :: after)
    (visible : Line.ofText line ≠ .blank) (noComment : Line.ofText line ≠ .comment) :
    Reading.Accepts (readingOf before) (readingOf (before ++ [line])) (.ofText line) ∧
        warningsOn text (before.length + 1) = [] ∨
      ¬ Reading.Accepts (readingOf before) (readingOf (before ++ [line])) (.ofText line) ∧
        (readingOf (before ++ [line])).sections = (readingOf before).sections ∧
        ∃ fault, warningsOn text (before.length + 1) = [⟨before.length + 1, fault⟩] := by
  rw [readingOf_concat, warningsOn_eq split]
  cases wrong : ((readingOf before).step (.ofText line)).2 with
  | none =>
      have accepted := Reading.accepts_step (readingOf_isAnchored before) visible noComment wrong
      exact Or.inl ⟨accepted, rfl⟩
  | some fault =>
      exact Or.inr ⟨Reading.not_accepts_of_fault wrong, Reading.sections_step_of_fault wrong,
        fault, rfl⟩

/-- A warning is about a line that says something. -/
theorem exists_line_of_mem_warnings {text : String} {warning : LineWarning}
    (member : warning ∈ (readSections text).2) :
    ∃ before line after, Text.splitLines text.toList = before ++ line :: after ∧
      warning.line = before.length + 1 ∧ Line.ofText line ≠ .blank ∧
      Line.ofText line ≠ .comment := by
  have isRun : warning ∈ (Reading.start.run 1 (linesOf text)).2 := member
  rcases Reading.mem_run_snd_iff.1 isRun with ⟨first, culprit, rest, lines, numbered, faulty⟩
  rcases List.map_eq_append_iff.1 lines with ⟨before, later, split, rfl, behind⟩
  rcases List.map_eq_cons_iff.1 behind with ⟨line, after, rfl, rfl, rfl⟩
  rw [List.length_map, Nat.add_comm] at numbered
  refine ⟨before, line, after, split, numbered, ?_, ?_⟩
  · intro blank
    rw [blank] at faulty
    cases faulty
  · intro comment
    rw [comment] at faulty
    cases faulty

/-! ## Lines in place of rejected ones -/

/-- A line is rejected when there is a warning with its number, and it is cleared then unless it
begins with a bracket in the first column. -/
def IsClearable (text : String) (number : Nat) (line : List Char) : Prop :=
  warningsOn text number ≠ [] ∧ line.head? ≠ some '['

instance (text : String) (number : Nat) (line : List Char) :
    Decidable (IsClearable text number line) :=
  inferInstanceAs (Decidable (_ ∧ _))

/-- The lines that are cleared are those that something is wrong with where the lines before lead,
but no broken headers. -/
theorem isClearable_iff {text : String} {before after : List (List Char)} {line : List Char}
    (split : Text.splitLines text.toList = before ++ line :: after) :
    IsClearable text (before.length + 1) line ↔
      ((readingOf before).step (.ofText line)).2 ≠ none ∧ Line.ofText line ≠ .brokenHeader := by
  rw [IsClearable, warningsOn_eq split]
  constructor
  · rintro ⟨warned, noBracket⟩
    constructor
    · intro faultless
      exact warned (by rw [faultless]; rfl)
    · intro broken
      exact noBracket (Line.head?_eq_bracket_iff.2 (Or.inl broken))
  · rintro ⟨wrong, noHeader⟩
    refine ⟨by simpa using wrong, ?_⟩
    intro bracket
    rcases Line.head?_eq_bracket_iff.1 bracket with broken | ⟨name, header⟩
    · exact noHeader broken
    · exact wrong (by rw [header]; rfl)

/-- Some lines of a text, counted from a number, are cleared to others: in the place of those that
are rejected stand empty lines, however many, and the others are kept. -/
inductive Clears (text : String) : Nat → List (List Char) → List (List Char) → Prop
  | nil {number : Nat} : Clears text number [] []
  | keep {number : Nat} {line : List Char} {rest others : List (List Char)}
      (kept : ¬ IsClearable text number line) (later : Clears text (number + 1) rest others) :
      Clears text number (line :: rest) (line :: others)
  | clear {number : Nat} {line : List Char} {rest others : List (List Char)}
      (cleared : IsClearable text number line) (gap : List (List Char))
      (empty : ∀ line ∈ gap, line = []) (later : Clears text (number + 1) rest others) :
      Clears text number (line :: rest) (gap ++ others)

namespace Reading

/-- Two readings agree but for the key: where none is open in the first, one may be in the
second. -/
structure AgreesButForKey (reading other : Reading) : Prop where
  sections : other.sections = reading.sections
  current : other.current = reading.current
  openKey : ∀ key, reading.openKey = some key → other.openKey = some key

variable {reading other : Reading} {line : Line} {fault : LineFault}

theorem AgreesButForKey.refl (reading : Reading) : reading.AgreesButForKey reading :=
  ⟨rfl, rfl, fun _ isOpen => isOpen⟩

/-- A line that is accepted, or a broken header, leads to readings that agree as those before. -/
theorem AgreesButForKey.step (agrees : reading.AgreesButForKey other)
    (kept : (reading.step line).2 = none ∨ line = .brokenHeader) :
    (reading.step line).1.AgreesButForKey (other.step line).1 := by
  rcases reading with ⟨sections, current, openKey⟩
  rcases other with ⟨otherSections, otherCurrent, otherKey⟩
  rcases agrees with ⟨rfl, rfl, sameKey⟩
  cases line with
  | blank => exact .refl _
  | comment => exact ⟨rfl, rfl, sameKey⟩
  | continuation text =>
      cases otherCurrent with
      | none => simp [Reading.step] at kept
      | some name =>
          cases openKey with
          | none => simp [Reading.step] at kept
          | some key =>
              cases sameKey key rfl
              exact .refl _
  | header name => exact .refl _
  | brokenHeader => exact .refl _
  | malformed text => simp [Reading.step] at kept
  | entry key value =>
      cases otherCurrent with
      | none => simp [Reading.step] at kept
      | some name => exact .refl _

theorem AgreesButForKey.step_reached (agrees : reading.AgreesButForKey other)
    (tidy : reading.IsTidy) (rejected : (reading.step line).2 = some fault)
    (noHeader : line ≠ .brokenHeader) {gap : List (List Char)} (empty : ∀ line ∈ gap, line = []) :
    (reading.step line).1.AgreesButForKey (other.reached (gap.map Line.ofText)) := by
  rcases reached_empty other empty with ⟨sections, current⟩
  rw [step_of_fault tidy rejected noHeader]
  refine ⟨sections.trans agrees.sections, current.trans agrees.current, ?_⟩
  intro key isOpen
  cases isOpen

end Reading

/-- Lines of a text and the lines to which they are cleared lead to readings that agree but for the
key. -/
theorem Clears.agreesButForKey {text : String} {number : Nat} {rest others : List (List Char)}
    (clears : Clears text number rest others) {before : List (List Char)}
    (lines : Text.splitLines text.toList = before ++ rest) (isNext : number = before.length + 1)
    {other : Reading} (agrees : (readingOf before).AgreesButForKey other) :
    (readingOf (before ++ rest)).AgreesButForKey (other.reached (others.map Line.ofText)) := by
  induction clears generalizing before other with
  | nil => simpa using agrees
  | @keep number line rest others kept later inductionHypothesis =>
      subst isNext
      rw [isClearable_iff lines] at kept
      have keeps : ((readingOf before).step (.ofText line)).2 = none ∨
          Line.ofText line = .brokenHeader := by
        by_contra neither
        exact kept (not_or.1 neither)
      rw [List.append_cons] at lines ⊢
      apply inductionHypothesis lines (by simp)
      rw [readingOf_concat]
      exact agrees.step keeps
  | @clear number line rest others cleared gap empty later inductionHypothesis =>
      subst isNext
      rcases (isClearable_iff lines).1 cleared with ⟨wrong, noHeader⟩
      rcases Option.ne_none_iff_exists'.1 wrong with ⟨fault, rejected⟩
      rw [List.append_cons] at lines ⊢
      rw [List.map_append, Reading.reached_append]
      apply inductionHypothesis lines (by simp)
      rw [readingOf_concat]
      exact agrees.step_reached (readingOf_isTidy before) rejected noHeader empty

/-- A text whose lines are cleared to those of another one has the same sections. -/
theorem readSections_of_clears {text other : String}
    (clears : Clears text 1 (Text.splitLines text.toList) (Text.splitLines other.toList)) :
    (readSections other).1 = (readSections text).1 := by
  have lines : Text.splitLines text.toList = [] ++ Text.splitLines text.toList := rfl
  have agrees := clears.agreesButForKey lines rfl (.refl (readingOf []))
  rw [readSections_fst, readSections_fst]
  exact agrees.sections

/-! ## Texts without rejected lines -/

/-- The text of some lines with their ends, counted from a number, those that are rejected being
empty. -/
def clearedFrom (text : String) : Nat → List (List Char × List Char) → List Char
  | _, [] => []
  | number, (line, lineEnd) :: rest =>
      (if IsClearable text number line then [] else line) ++ lineEnd ++
        clearedFrom text (number + 1) rest

/-- The text with nothing in place of what is in the rejected lines. -/
def clearedText (text : String) : String :=
  String.ofList (clearedFrom text 1 (Text.endedLines text.toList))

/-- Where rejected lines are empty, the lines are those to which a text is cleared.  An empty line
is lost at the end of the text, and between a carriage return and a line feed. -/
theorem clears_clearedFrom (text : String) {pieces : List (List Char × List Char)}
    {afterReturn : Bool} (ended : Text.AreEnded afterReturn pieces) (number : Nat) :
    Clears text number (pieces.map Prod.fst)
      (Text.splitLinesAfter afterReturn (clearedFrom text number pieces)) := by
  induction pieces generalizing afterReturn number with
  | nil => exact .nil
  | cons piece rest inductionHypothesis =>
      rcases piece with ⟨line, lineEnd⟩
      rw [List.map_cons, clearedFrom]
      rcases ended with ⟨unbroken, ⟨occupied, rfl, rfl⟩ | ⟨isLineEnd, apart, restEnded⟩⟩
      · rw [clearedFrom, List.append_nil, List.append_nil]
        by_cases clearable : IsClearable text number line
        · rw [if_pos clearable]
          exact .clear clearable [] (by simp) .nil
        · rw [if_neg clearable, Text.splitLinesAfter_of_unbroken afterReturn unbroken,
            if_neg occupied]
          exact .keep clearable .nil
      · have later := inductionHypothesis restEnded (number + 1)
        by_cases clearable : IsClearable text number line
        · rw [if_pos clearable]
          by_cases lost : afterReturn = true ∧ lineEnd = ['\n']
          · rcases lost with ⟨rfl, rfl⟩
            exact .clear clearable [] (by simp) later
          · have emptyApart : ¬ (afterReturn = true ∧ ([] : List Char) = [] ∧ lineEnd = ['\n']) :=
              fun both => lost ⟨both.1, both.2.2⟩
            rw [Text.splitLinesAfter_ended (by simp [Text.IsUnbroken]) isLineEnd emptyApart]
            exact .clear clearable [[]] (by simp) later
        · rw [if_neg clearable, Text.splitLinesAfter_ended unbroken isLineEnd apart]
          exact .keep clearable later

/-- The lines of a text are cleared to those of the text without what is in the rejected ones. -/
theorem clears_clearedText (text : String) :
    Clears text 1 (Text.splitLines text.toList) (Text.splitLines (clearedText text).toList) := by
  have ended : Text.AreEnded false (Text.endedLines text.toList) :=
    Text.areEnded_endedLines text.toList (by simp)
  rw [← Text.map_fst_endedLines, clearedText, String.toList_ofList]
  exact clears_clearedFrom text ended 1

/-- Behind a line without a separator no entry is open, and so the continuation is rejected too. -/
example : clearedText "[/a]\nalice = r\nno separator\n  w\n[/b" =
    "[/a]\nalice = r\n\n\n[/b" := by
  decide +kernel

end PathPolicy.PolicyText
