import PathPolicy.Proofs.PolicyText.Rejected

/-!
# Entries on several lines

An entry goes on in the indented lines below it, and comments may stand among these.  It says what
it would say in one line, in which the key, the separator, the value and what the other lines add
follow each other with one space between two of them.  So such lines can be folded into that one
line, in any section, in that of the groups and where no section is open, and the text still
describes the same document.
-/

namespace PathPolicy.PolicyText

/-! ## Lines of an entry -/

/-- A comment begins with one of two characters, indented or not. -/
def IsCommentLine (line : List Char) : Prop :=
  ∃ c ∈ (Text.trim line).head?, c = '#' ∨ c = ';'

/-- An indented line that says something and is no comment has one more piece of an entry. -/
structure IsContinuationLine (line : List Char) : Prop where
  indented : ∃ c ∈ line.head?, Text.isBlank c = true
  visible : ∃ c ∈ (Text.trim line).head?, c ≠ '#' ∧ c ≠ ';'

/-- A line begins an entry when it begins in the first column, as no comment and no header, and has
a key in front of its first separator. -/
structure IsEntryLine (line key : List Char) (separator : Char) (value : List Char) : Prop where
  flush : ∀ c ∈ line.head?, Text.isBlank c = false
  opens : ∀ c ∈ (Text.trim line).head?, c ≠ '[' ∧ c ≠ '#' ∧ c ≠ ';'
  separates : separator = ':' ∨ separator = '='
  parts : ∃ before after, Text.trim line = before ++ separator :: after ∧
    (∀ c ∈ before, c ≠ ':' ∧ c ≠ '=') ∧ before ≠ [] ∧ Text.trim before = key ∧
    Text.trim after = value

/-- Lines go on with an entry when each of them is a comment or has one more piece. -/
inductive GoOn : List (List Char) → List (List Char) → Prop
  | nil : GoOn [] []
  | comment {line : List Char} {rest pieces : List (List Char)} (isComment : IsCommentLine line)
      (later : GoOn rest pieces) : GoOn (line :: rest) pieces
  | piece {line : List Char} {rest pieces : List (List Char)}
      (isContinuation : IsContinuationLine line) (later : GoOn rest pieces) :
      GoOn (line :: rest) (Text.trim line :: pieces)

/-- Lines spread an entry: its first line has the first piece of its value, which may be empty, and
the lines below have the others. -/
inductive Spread (key : List Char) (separator : Char) :
    List (List Char) → List (List Char) → Prop
  | intro {line value : List Char} {rest pieces : List (List Char)}
      (isEntry : IsEntryLine line key separator value) (goOn : GoOn rest pieces) :
      Spread key separator (line :: rest) (value :: pieces)

/-- Pieces with one space between two of them; an empty piece adds nothing. -/
def joinPieces (pieces : List (List Char)) : List Char :=
  [' '].intercalate (pieces.filter fun piece => !piece.isEmpty)

theorem isEntryLine_iff {line key value : List Char} :
    (∃ separator, IsEntryLine line key separator value) ↔
      Line.ofText line = .entry key value := by
  rw [Line.ofText_eq_entry_iff]
  constructor
  · rintro ⟨separator, flush, opens, separates, before, after, split, clean, occupied, rfl, rfl⟩
    have isSeparator : Line.isSeparator separator = true := by
      rcases separates with rfl | rfl <;> rfl
    have cut : Text.breakFirst Line.isSeparator (before ++ separator :: after) =
        some (before, after) :=
      Text.breakFirst_eq_some_iff.2 ⟨separator, rfl, isSeparator, fun c member =>
        Line.isSeparator_eq_false_iff.2 (clean c member)⟩
    cases before with
    | nil => exact absurd rfl occupied
    | cons first others =>
        rcases opens first (by rw [split]; rfl) with ⟨noBracket, noComment⟩
        refine ⟨first, others ++ separator :: after, split,
          Line.opensComment_eq_false_iff.2 noComment, ?_, noBracket, ?_⟩
        · cases line with
          | nil => rfl
          | cons c rest => exact flush c rfl
        · exact Line.ofUnbracketed_eq_entry_iff.2 ⟨_, after, cut, occupied, rfl, rfl⟩
  · rintro ⟨first, rest, trimmed, noComment, flush, noBracket, entry⟩
    rcases Line.ofUnbracketed_eq_entry_iff.1 entry with
      ⟨before, after, cut, occupied, isKey, isValue⟩
    rcases Text.breakFirst_eq_some_iff.1 cut with ⟨separator, split, separates, clean⟩
    refine ⟨separator, ?_, ?_, ?_, before, after, trimmed.trans split, ?_, occupied, isKey, isValue⟩
    · intro c isFirst
      rw [Line.isIndented, Option.mem_def.1 isFirst] at flush
      exact flush
    · rw [trimmed]
      rintro c ⟨⟩
      exact ⟨noBracket, Line.opensComment_eq_false_iff.1 noComment⟩
    · simpa [Line.isSeparator] using separates
    · exact fun c member => Line.isSeparator_eq_false_iff.1 (clean c member)

theorem IsEntryLine.isTrimmed {line key value : List Char} {separator : Char}
    (isEntry : IsEntryLine line key separator value) : Text.IsTrimmed value := by
  rcases isEntry.parts with ⟨_, after, _, _, _, _, rfl⟩
  exact Text.isTrimmed_trim after

theorem IsEntryLine.isSeparator {line key value : List Char} {separator : Char}
    (isEntry : IsEntryLine line key separator value) : Line.isSeparator separator = true := by
  rcases isEntry.separates with rfl | rfl <;> rfl

theorem isCommentLine_iff {line : List Char} :
    IsCommentLine line ↔ Line.ofText line = .comment := by
  rw [Line.ofText_eq_comment_iff, IsCommentLine]
  simp [Line.opensComment]

theorem IsContinuationLine.ofText_eq {line : List Char} (isContinuation : IsContinuationLine line) :
    Line.ofText line = .continuation (Text.trim line) := by
  rcases isContinuation with ⟨⟨blank, isFirst, isBlank⟩, ⟨c, begins, noComment⟩⟩
  apply Line.ofText_eq_continuation_iff.2
  refine ⟨?_, rfl, c, begins, Line.opensComment_eq_false_iff.2 noComment⟩
  rw [Line.isIndented, Option.mem_def.1 isFirst]
  exact isBlank

theorem IsContinuationLine.trim_ne_nil {line : List Char}
    (isContinuation : IsContinuationLine line) : Text.trim line ≠ [] := by
  rcases isContinuation.visible with ⟨c, begins, _⟩
  intro empty
  rw [empty] at begins
  cases begins

/-! ## Joined pieces -/

theorem joinPieces_nil_cons (pieces : List (List Char)) :
    joinPieces ([] :: pieces) = joinPieces pieces :=
  rfl

/-- Two pieces that are not empty can be joined first. -/
theorem joinPieces_cons_cons {first second : List Char} (firstOccupied : first ≠ [])
    (secondOccupied : second ≠ []) (pieces : List (List Char)) :
    joinPieces (first :: second :: pieces) = joinPieces ((first ++ ' ' :: second) :: pieces) := by
  have joinedOccupied : first ++ ' ' :: second ≠ [] := by simp
  have kept : ∀ {piece : List Char} (rest : List (List Char)), piece ≠ [] →
      (piece :: rest).filter (fun piece => !piece.isEmpty) =
        piece :: rest.filter fun piece => !piece.isEmpty := by
    intro piece rest occupied
    exact List.filter_cons_of_pos (by simpa using occupied)
  rw [joinPieces, joinPieces, kept _ firstOccupied, kept _ secondOccupied, kept _ joinedOccupied,
    List.intercalate_cons_cons]
  cases pieces.filter fun piece => !piece.isEmpty with
  | nil => simp
  | cons third others => simp [List.intercalate_cons_cons]

theorem joinPieces_trim {value piece : List Char} (valueTrimmed : Text.IsTrimmed value)
    (pieceTrimmed : Text.IsTrimmed piece) (occupied : piece ≠ []) (pieces : List (List Char)) :
    joinPieces (Text.trim (value ++ ' ' :: piece) :: pieces) =
      joinPieces (value :: piece :: pieces) := by
  by_cases empty : value = []
  · subst empty
    rw [List.nil_append, Text.trim_cons_of_blank rfl, pieceTrimmed, joinPieces_nil_cons]
  · have together : Text.trim (value ++ ' ' :: piece) = value ++ ' ' :: piece := by
      have trimmed := valueTrimmed.append pieceTrimmed empty occupied [' ']
      rwa [List.append_assoc] at trimmed
    rw [together, joinPieces_cons_cons empty occupied]

/-- Joined pieces have no blanks around them and no line break, as the pieces have none. -/
theorem isTrimmed_joinPieces {value : List Char} (valueTrimmed : Text.IsTrimmed value)
    (valueUnbroken : Text.IsUnbroken value) {pieces : List (List Char)}
    (tokens : ∀ piece ∈ pieces, Text.IsToken piece) :
    Text.IsTrimmed (joinPieces (value :: pieces)) ∧
      Text.IsUnbroken (joinPieces (value :: pieces)) := by
  induction pieces generalizing value with
  | nil =>
      have single : joinPieces [value] = value := by cases value <;> simp [joinPieces]
      rw [single]
      exact ⟨valueTrimmed, valueUnbroken⟩
  | cons piece rest inductionHypothesis =>
      rw [List.forall_mem_cons] at tokens
      rcases tokens with ⟨isToken, restTokens⟩
      have unbroken : Text.IsUnbroken (value ++ ' ' :: piece) :=
        Text.isUnbroken_append_iff.2
          ⟨valueUnbroken, Text.isUnbroken_cons_iff.2 ⟨rfl, isToken.unbroken⟩⟩
      rw [← joinPieces_trim valueTrimmed isToken.trimmed isToken.occupied]
      exact inductionHypothesis (Text.isTrimmed_trim _)
        (unbroken.of_subset (Text.trim_sublist _).subset) restTokens

/-! ## Lines that go on with an entry -/

theorem GoOn.not_isHeader {lines pieces : List (List Char)} (goOn : GoOn lines pieces) :
    ∀ line ∈ lines.map Line.ofText, ¬ line.IsHeader := by
  induction goOn with
  | nil => simp
  | comment isComment later inductionHypothesis =>
      rw [List.map_cons, List.forall_mem_cons, isCommentLine_iff.1 isComment]
      exact ⟨by simp [Line.IsHeader], inductionHypothesis⟩
  | piece isContinuation later inductionHypothesis =>
      rw [List.map_cons, List.forall_mem_cons, isContinuation.ofText_eq]
      exact ⟨by simp [Line.IsHeader], inductionHypothesis⟩

theorem GoOn.isToken {lines pieces : List (List Char)} (goOn : GoOn lines pieces)
    (unbroken : ∀ line ∈ lines, Text.IsUnbroken line) : ∀ piece ∈ pieces, Text.IsToken piece := by
  induction goOn with
  | nil => simp
  | comment isComment later inductionHypothesis =>
      exact inductionHypothesis (List.forall_mem_cons.1 unbroken).2
  | piece isContinuation later inductionHypothesis =>
      rw [List.forall_mem_cons] at unbroken ⊢
      exact ⟨Text.isToken_trim unbroken.1 isContinuation.trim_ne_nil,
        inductionHypothesis unbroken.2⟩

theorem RawSections.putEntry_putEntry (sections : RawSections) (name key value other : String) :
    (sections.putEntry name key value).putEntry name key other =
      sections.putEntry name key other := by
  have found : (sections.putEntry name key value).entries name =
      (sections.entries name).put key value := by
    rw [putEntry, entries, Table.get?_put_self, Option.getD_some]
  rw [putEntry, found, putEntry, putEntry, Table.put_put, Table.put_put]

theorem Reading.step_continuation_putEntry (sections : RawSections) (name key : String)
    (value piece : List Char) :
    (step ⟨sections.putEntry name key (String.ofList value), some name, some key⟩
        (.continuation piece)).1 =
      ⟨sections.putEntry name key (String.ofList (Text.trim (value ++ ' ' :: piece))), some name,
        some key⟩ := by
  have joined : RawSections.joinValue (String.ofList value) (String.ofList piece) =
      String.ofList (Text.trim (value ++ ' ' :: piece)) := by
    rw [RawSections.joinValue, Text.trimmed]
    simp
  simp only [step, RawSections.extendEntry, get?_entries_putEntry, Option.getD_some, joined,
    RawSections.putEntry_putEntry]

/-- Lines that go on with an entry that was put leave its value with all their pieces behind it. -/
theorem GoOn.reached_putEntry {lines pieces : List (List Char)} (goOn : GoOn lines pieces)
    (sections : RawSections) (name key : String) {value : List Char}
    (trimmed : Text.IsTrimmed value) :
    Reading.reached ⟨sections.putEntry name key (String.ofList value), some name, some key⟩
        (lines.map Line.ofText) =
      ⟨sections.putEntry name key (String.ofList (joinPieces (value :: pieces))), some name,
        some key⟩ := by
  induction goOn generalizing value with
  | nil =>
      have single : joinPieces [value] = value := by cases value <;> simp [joinPieces]
      rw [single]
      rfl
  | comment isComment later inductionHypothesis =>
      rw [List.map_cons, Reading.reached_cons, isCommentLine_iff.1 isComment]
      exact inductionHypothesis trimmed
  | piece isContinuation later inductionHypothesis =>
      rw [List.map_cons, Reading.reached_cons, isContinuation.ofText_eq,
        Reading.step_continuation_putEntry, inductionHypothesis (Text.isTrimmed_trim _),
        joinPieces_trim trimmed (Text.isTrimmed_trim _) isContinuation.trim_ne_nil]

/-! ## Spread entries -/

namespace Spread

variable {key : List Char} {separator : Char} {lines pieces : List (List Char)}

theorem reached (spread : Spread key separator lines pieces) (reading : Reading) :
    reading.reached (lines.map Line.ofText) =
      (reading.step (.entry key (joinPieces pieces))).1 := by
  rcases spread with ⟨isEntry, goOn⟩
  rw [List.map_cons, Reading.reached_cons, isEntryLine_iff.1 ⟨separator, isEntry⟩]
  cases isOpen : reading.current with
  | none =>
      simp only [Reading.step, isOpen]
      exact Reading.reached_closed reading.sections goOn.not_isHeader
  | some name =>
      simp only [Reading.step, isOpen]
      exact goOn.reached_putEntry reading.sections name (String.ofList key) isEntry.isTrimmed

theorem ofText_spacedEntryText (spread : Spread key separator lines pieces)
    (unbroken : ∀ line ∈ lines, Text.IsUnbroken line) {left right : List Char}
    (leftGap : Line.IsGap left) (rightGap : Line.IsGap right) :
    Line.ofText (Line.spacedEntryText key left separator right (joinPieces pieces)) =
        .entry key (joinPieces pieces) ∧
      Text.IsUnbroken (Line.spacedEntryText key left separator right (joinPieces pieces)) := by
  rcases spread with ⟨isEntry, goOn⟩
  rw [List.forall_mem_cons] at unbroken
  rcases Line.isKey_of_ofText_eq_entry unbroken.1 (isEntryLine_iff.1 ⟨separator, isEntry⟩) with
    ⟨isKey, valueUnbroken⟩
  rcases isTrimmed_joinPieces isEntry.isTrimmed valueUnbroken (goOn.isToken unbroken.2) with
    ⟨joinedTrimmed, joinedUnbroken⟩
  exact ⟨Line.ofText_spacedEntryText isKey leftGap rightGap isEntry.isSeparator joinedTrimmed,
    Line.isUnbroken_spacedEntryText isKey.unbroken leftGap rightGap isEntry.isSeparator
      joinedUnbroken⟩

end Spread

/-! ## Folded texts -/

/-- The text with one line in the place of a block of lines; it ends as the last of these does. -/
def foldedText (before block after : List (List Char × List Char)) (line : List Char) : String :=
  String.ofList
    (Text.joinEnded (before ++ (line, (block.getLast?.map Prod.snd).getD []) :: after))

theorem splitLines_foldedText {text : String} {before block after : List (List Char × List Char)}
    (lines : Text.endedLines text.toList = before ++ (block ++ after)) (some : block ≠ [])
    {line : List Char} (occupied : line ≠ []) (unbroken : Text.IsUnbroken line) :
    Text.splitLines (foldedText before block after line).toList =
      before.map Prod.fst ++ line :: after.map Prod.fst := by
  have ended : Text.AreEnded false (before ++ (block ++ after)) := by
    rw [← lines]
    exact Text.areEnded_endedLines text.toList (by simp)
  have isLast := List.getLast?_eq_some_getLast some
  have replaced := ended.replace isLast occupied unbroken
  rw [foldedText, isLast, String.toList_ofList, Text.splitLines]
  exact (Text.splitLinesAfter_joinEnded replaced).trans (by simp)

theorem readSections_eq_of_reached {text other : String} {before block after : List (List Char)}
    {line : List Char} (lines : Text.splitLines text.toList = before ++ (block ++ after))
    (otherLines : Text.splitLines other.toList = before ++ line :: after)
    (same : ∀ reading : Reading,
      reading.reached (block.map Line.ofText) = (reading.step (.ofText line)).1) :
    (readSections other).1 = (readSections text).1 := by
  rw [readSections_fst, readSections_fst, lines, otherLines, readingOf_append, readingOf_append,
    List.map_cons, Reading.reached_cons, List.map_append, Reading.reached_append, same]

/-- An entry that is spread over some lines can be folded into a single line, wherever it stands:
the text describes the same document.  The single line has the key, the separator with any blanks
around it, and the pieces of the value with one space between two of them.  However the lines of
the other text end, it does not matter. -/
theorem spread_entry_folds {text : String} {before block after : List (List Char × List Char)}
    (lines : Text.endedLines text.toList = before ++ (block ++ after)) {key : List Char}
    {separator : Char} {pieces : List (List Char)}
    (spread : Spread key separator (block.map Prod.fst) pieces) {left right : List Char}
    (leftGap : Line.IsGap left) (rightGap : Line.IsGap right) (source : String) :
    ∃ document, (parse source text).value = .ok document ∧
      (parse source (foldedText before block after
        (Line.spacedEntryText key left separator right (joinPieces pieces)))).value =
          .ok document ∧
      ∀ other, Text.splitLines other.toList = before.map Prod.fst ++
          Line.spacedEntryText key left separator right (joinPieces pieces) ::
            after.map Prod.fst →
        (parse source other).value = .ok document := by
  have allLines : Text.splitLines text.toList =
      before.map Prod.fst ++ (block.map Prod.fst ++ after.map Prod.fst) := by
    rw [← Text.map_fst_endedLines, lines, List.map_append, List.map_append]
  have unbroken : ∀ line ∈ block.map Prod.fst, Text.IsUnbroken line := by
    intro line member
    have isLine : line ∈ Text.splitLines text.toList := by
      rw [allLines]
      exact List.mem_append_right _ (List.mem_append_left _ member)
    exact Text.isUnbroken_of_mem_splitLinesAfter isLine
  rcases spread.ofText_spacedEntryText unbroken leftGap rightGap with ⟨isEntry, lineUnbroken⟩
  have sameDocument : ∀ other, Text.splitLines other.toList = before.map Prod.fst ++
      Line.spacedEntryText key left separator right (joinPieces pieces) :: after.map Prod.fst →
        (parse source other).value = (parse source text).value := by
    intro other otherLines
    have sameSections := readSections_eq_of_reached allLines otherLines fun reading => by
      rw [isEntry, spread.reached]
    rw [value_parse, value_parse, sameSections]
  have someLines : block ≠ [] := by
    rintro rfl
    cases spread
  have occupied : Line.spacedEntryText key left separator right (joinPieces pieces) ≠ [] := by
    simp [Line.spacedEntryText]
  rcases exists_parse_eq_ok source text with ⟨document, parsed⟩
  refine ⟨document, parsed, ?_, ?_⟩
  · rw [sameDocument _ (splitLines_foldedText lines someLines occupied lineUnbroken), parsed]
  · intro other otherLines
    rw [sameDocument other otherLines, parsed]

/-- The definition of a group whose members stand in three lines, with two comments between them. -/
theorem spreadGroup_folds :
    Spread "devs".toList ':'
        ["devs : alice,".toList, "# more".toList, "  bob,".toList, "\t;".toList, "\tcarol ".toList]
        ["alice,".toList, "bob,".toList, "carol".toList] ∧
      ∃ document,
        (parse "policy"
          "[groups]\r\ndevs : alice,\r# more\n  bob,\n\t;\r\n\tcarol \r\n[/a]\n@devs = r").value =
            .ok document ∧
        (parse "policy" "[groups]\r\ndevs: alice, bob, carol\r\n[/a]\n@devs = r").value =
            .ok document := by
  have isEntry : IsEntryLine "devs : alice,".toList "devs".toList ':' "alice,".toList := by
    constructor
    case flush =>
      rintro _ ⟨⟩
      rfl
    case opens =>
      rintro _ ⟨⟩
      decide
    case separates => exact Or.inl rfl
    case parts =>
      have before : ∀ c ∈ "devs ".toList, c ≠ ':' ∧ c ≠ '=' := by simp
      exact ⟨"devs ".toList, " alice,".toList, by decide, before, by decide, by decide, by decide⟩
  have spread : Spread "devs".toList ':'
      ["devs : alice,".toList, "# more".toList, "  bob,".toList, "\t;".toList, "\tcarol ".toList]
      ["alice,".toList, "bob,".toList, "carol".toList] :=
    .intro isEntry <|
      .comment ⟨'#', rfl, Or.inl rfl⟩ <|
      .piece ⟨⟨' ', rfl, rfl⟩, 'b', rfl, by decide⟩ <|
      .comment ⟨';', rfl, Or.inr rfl⟩ <|
      .piece ⟨⟨'\t', rfl, rfl⟩, 'c', rfl, by decide⟩ .nil
  have lines : Text.endedLines
      "[groups]\r\ndevs : alice,\r# more\n  bob,\n\t;\r\n\tcarol \r\n[/a]\n@devs = r".toList =
        [("[groups]".toList, "\r\n".toList)] ++
          ([("devs : alice,".toList, "\r".toList), ("# more".toList, "\n".toList),
            ("  bob,".toList, "\n".toList), ("\t;".toList, "\r\n".toList),
            ("\tcarol ".toList, "\r\n".toList)] ++
          [("[/a]".toList, "\n".toList), ("@devs = r".toList, [])]) := by
    decide +kernel
  have noGap : Line.IsGap [] := ⟨List.forall_mem_nil _, by decide⟩
  have space : Line.IsGap [' '] := ⟨List.forall_mem_singleton.2 rfl, by decide⟩
  rcases spread_entry_folds lines spread noGap space "policy" with ⟨document, parsed, folded, _⟩
  exact ⟨spread, document, parsed, folded⟩

end PathPolicy.PolicyText
