import PathPolicy.Proofs.Text.Lines

/-!
# Lines with their ends

A text is its lines with what ends each of them, one after the other.  The lines are found again in
the text of some lines with their ends, but for an empty line that ends with a line feed behind a
carriage return: these two end the line before it together.
-/

namespace PathPolicy.Text

/-- The lines of a text, each with what ends it; only the last can end with the text. -/
def endedLines : List Char → List (List Char × List Char)
  | [] => []
  | [c] => if isLineBreak c then [([], [c])] else [([c], [])]
  | c :: d :: rest =>
      if c = '\r' ∧ d = '\n' then ([], [c, d]) :: endedLines rest
      else if isLineBreak c then ([], [c]) :: endedLines (d :: rest)
      else
        match endedLines (d :: rest) with
        | [] => [([c], [])]
        | (line, lineEnd) :: later => (c :: line, lineEnd) :: later

/-- The text of some lines with their ends. -/
def joinEnded (pieces : List (List Char × List Char)) : List Char :=
  pieces.flatMap fun piece => piece.1 ++ piece.2

/-- Some lines with their ends are found again in their text, behind a lone carriage return or not:
none of them is lost between two ends that make one, and only the last ends with the text. -/
def AreEnded (afterReturn : Bool) : List (List Char × List Char) → Prop
  | [] => True
  | (line, lineEnd) :: rest =>
      IsUnbroken line ∧
        (line ≠ [] ∧ lineEnd = [] ∧ rest = [] ∨
          IsLineEnd lineEnd ∧ ¬ (afterReturn = true ∧ line = [] ∧ lineEnd = ['\n']) ∧
            AreEnded (lineEnd == ['\r']) rest)

theorem areEnded_empty_cons {afterReturn : Bool} {lineEnd : List Char}
    {rest : List (List Char × List Char)} (isLineEnd : IsLineEnd lineEnd)
    (noFeed : afterReturn = true → lineEnd ≠ ['\n'])
    (ended : AreEnded (lineEnd == ['\r']) rest) : AreEnded afterReturn (([], lineEnd) :: rest) :=
  ⟨by simp [IsUnbroken], Or.inr ⟨isLineEnd, fun both => noFeed both.1 both.2.2, ended⟩⟩

theorem joinEnded_cons (line lineEnd : List Char) (rest : List (List Char × List Char)) :
    joinEnded ((line, lineEnd) :: rest) = line ++ lineEnd ++ joinEnded rest :=
  List.flatMap_cons

/-- A text is its lines with their ends. -/
theorem joinEnded_endedLines (characters : List Char) :
    joinEnded (endedLines characters) = characters := by
  induction characters using endedLines.induct with
  | case1 => rfl
  | case2 c isBreak => rw [endedLines, if_pos isBreak]; rfl
  | case3 c noBreak => rw [endedLines, if_neg noBreak]; rfl
  | case4 c d rest isPair inductionHypothesis =>
      rw [endedLines, if_pos isPair, joinEnded_cons, inductionHypothesis]
      rfl
  | case5 c d rest noPair isBreak inductionHypothesis =>
      rw [endedLines, if_neg noPair, if_pos isBreak, joinEnded_cons, inductionHypothesis]
      rfl
  | case6 c d rest noPair noBreak nothing inductionHypothesis =>
      rw [nothing] at inductionHypothesis
      cases inductionHypothesis
  | case7 c d rest noPair noBreak line lineEnd later lines inductionHypothesis =>
      rw [lines] at inductionHypothesis
      rw [endedLines, if_neg noPair, if_neg noBreak, lines, ← inductionHypothesis, joinEnded_cons,
        joinEnded_cons]
      rfl

/-- The lines of a text are found again with their ends, wherever no line feed belongs to a carriage
return in front of it. -/
theorem areEnded_endedLines (characters : List Char) {afterReturn : Bool}
    (noFeed : afterReturn = true → characters.head? ≠ some '\n') :
    AreEnded afterReturn (endedLines characters) := by
  induction characters using endedLines.induct generalizing afterReturn with
  | case1 => trivial
  | case2 c isBreak =>
      rw [endedLines, if_pos isBreak]
      exact areEnded_empty_cons (Or.inr ⟨c, isBreak, rfl⟩) (by simpa using noFeed) trivial
  | case3 c noBreak =>
      have unbroken : IsUnbroken [c] := by simpa [IsUnbroken] using noBreak
      rw [endedLines, if_neg noBreak]
      exact ⟨unbroken, Or.inl ⟨List.cons_ne_nil c [], rfl, rfl⟩⟩
  | case4 c d rest isPair inductionHypothesis =>
      rcases isPair with ⟨rfl, rfl⟩
      rw [endedLines, if_pos ⟨rfl, rfl⟩]
      exact areEnded_empty_cons (Or.inl rfl) (by simp) (inductionHypothesis (by simp))
  | case5 c d rest noPair isBreak inductionHypothesis =>
      have later : AreEnded ([c] == ['\r']) (endedLines (d :: rest)) := by
        apply inductionHypothesis
        intro isReturn isFeed
        exact noPair ⟨List.singleton_inj.1 (eq_of_beq isReturn), Option.some.inj isFeed⟩
      rw [endedLines, if_neg noPair, if_pos isBreak]
      exact areEnded_empty_cons (Or.inr ⟨c, isBreak, rfl⟩) (by simpa using noFeed) later
  | case6 c d rest noPair noBreak nothing inductionHypothesis =>
      have unbroken : IsUnbroken [c] := by simpa [IsUnbroken] using noBreak
      rw [endedLines, if_neg noPair, if_neg noBreak, nothing]
      exact ⟨unbroken, Or.inl ⟨List.cons_ne_nil c [], rfl, rfl⟩⟩
  | case7 c d rest noPair noBreak line lineEnd later lines inductionHypothesis =>
      have ended : AreEnded false (endedLines (d :: rest)) := inductionHypothesis (by simp)
      rw [lines] at ended
      rcases ended with ⟨unbroken, ends⟩
      have visible : isLineBreak c = false := by simpa using noBreak
      rw [endedLines, if_neg noPair, if_neg noBreak, lines]
      refine ⟨isUnbroken_cons_iff.2 ⟨visible, unbroken⟩, ?_⟩
      rcases ends with ⟨_, atEnd, isLast⟩ | ⟨isLineEnd, _, restEnded⟩
      · exact Or.inl ⟨List.cons_ne_nil c line, atEnd, isLast⟩
      · exact Or.inr ⟨isLineEnd, by simp, restEnded⟩

/-- The end of a line ends it, unless the line is empty and its line feed belongs to the carriage
return in front. -/
theorem splitLinesAfter_ended {line lineEnd : List Char} (unbroken : IsUnbroken line)
    (isLineEnd : IsLineEnd lineEnd) {afterReturn : Bool}
    (apart : ¬ (afterReturn = true ∧ line = [] ∧ lineEnd = ['\n'])) (rest : List Char) :
    splitLinesAfter afterReturn (line ++ lineEnd ++ rest) =
      line :: splitLinesAfter (lineEnd == ['\r']) rest := by
  induction line generalizing afterReturn with
  | nil =>
      rcases isLineEnd with rfl | ⟨c, isBreak, rfl⟩
      · cases afterReturn <;> rfl
      · have noFeed : (afterReturn && c == '\n') = false := by
          rw [Bool.and_eq_false_iff]
          by_cases behind : afterReturn = true
          · right
            have differs : c ≠ '\n' := by
              rintro rfl
              exact apart ⟨behind, rfl, rfl⟩
            simpa using differs
          · left
            simpa using behind
        have sameEnd : ([c] == ['\r']) = (c == '\r') := by simp
        rw [List.nil_append, List.singleton_append, splitLinesAfter, noFeed, isBreak, sameEnd]
        rfl
  | cons c others inductionHypothesis =>
      rcases isUnbroken_cons_iff.1 unbroken with ⟨visible, othersUnbroken⟩
      have noFeed : c ≠ '\n' := by
        rintro rfl
        cases visible
      have later : splitLinesAfter false (others ++ lineEnd ++ rest) =
          others :: splitLinesAfter (lineEnd == ['\r']) rest :=
        inductionHypothesis othersUnbroken (by simp)
      rw [List.cons_append, List.cons_append, splitLinesAfter, later]
      simp [visible, noFeed]

/-- Lines with their ends are the lines of their text. -/
theorem splitLinesAfter_joinEnded {pieces : List (List Char × List Char)} {afterReturn : Bool}
    (ended : AreEnded afterReturn pieces) :
    splitLinesAfter afterReturn (joinEnded pieces) = pieces.map Prod.fst := by
  induction pieces generalizing afterReturn with
  | nil => rfl
  | cons piece rest inductionHypothesis =>
      rcases piece with ⟨line, lineEnd⟩
      rcases ended with ⟨unbroken, ⟨occupied, rfl, rfl⟩ | ⟨isLineEnd, apart, restEnded⟩⟩
      · rw [joinEnded_cons, joinEnded, List.flatMap_nil, List.append_nil, List.append_nil,
          splitLinesAfter_of_unbroken afterReturn unbroken, if_neg occupied]
        rfl
      · rw [joinEnded_cons, splitLinesAfter_ended unbroken isLineEnd apart,
          inductionHypothesis restEnded]
        rfl

/-- The lines of a text without their ends. -/
theorem map_fst_endedLines (characters : List Char) :
    (endedLines characters).map Prod.fst = splitLines characters := by
  have ended : AreEnded false (endedLines characters) := areEnded_endedLines characters (by simp)
  rw [← splitLinesAfter_joinEnded ended, joinEnded_endedLines]
  rfl

/-! ## Lines in the place of others -/

/-- Behind some lines with their ends the text goes on where the last of them ends, if it does
go on. -/
theorem AreEnded.behind {afterReturn : Bool} {block after : List (List Char × List Char)}
    (ended : AreEnded afterReturn (block ++ after)) {line lineEnd : List Char}
    (isLast : block.getLast? = some (line, lineEnd)) :
    lineEnd = [] ∧ after = [] ∨ IsLineEnd lineEnd ∧ AreEnded (lineEnd == ['\r']) after := by
  induction block generalizing afterReturn with
  | nil => cases isLast
  | cons piece rest inductionHypothesis =>
      rcases piece with ⟨first, firstEnd⟩
      rcases ended with ⟨_, ends⟩
      cases rest with
      | nil =>
          cases isLast
          rcases ends with ⟨_, atEnd, isLast⟩ | ⟨isLineEnd, _, afterEnded⟩
          · exact Or.inl ⟨atEnd, isLast⟩
          · exact Or.inr ⟨isLineEnd, afterEnded⟩
      | cons second others =>
          rw [List.getLast?_cons_cons] at isLast
          rcases ends with ⟨_, _, nothing⟩ | ⟨_, _, restEnded⟩
          · cases nothing
          · exact inductionHypothesis restEnded isLast

/-- A line that is not empty can take the place of some lines, with the end of the last of them. -/
theorem AreEnded.replace {afterReturn : Bool} {before block after : List (List Char × List Char)}
    (ended : AreEnded afterReturn (before ++ (block ++ after))) {line lineEnd other : List Char}
    (isLast : block.getLast? = some (line, lineEnd)) (occupied : other ≠ [])
    (unbroken : IsUnbroken other) : AreEnded afterReturn (before ++ (other, lineEnd) :: after) := by
  induction before generalizing afterReturn with
  | nil =>
      rw [List.nil_append] at ended
      refine ⟨unbroken, ?_⟩
      rcases ended.behind isLast with ⟨atEnd, nothing⟩ | ⟨isLineEnd, afterEnded⟩
      · exact Or.inl ⟨occupied, atEnd, nothing⟩
      · exact Or.inr ⟨isLineEnd, fun lost => occupied lost.2.1, afterEnded⟩
  | cons piece rest inductionHypothesis =>
      rcases piece with ⟨first, firstEnd⟩
      rcases ended with ⟨firstUnbroken, ends⟩
      refine ⟨firstUnbroken, Or.inr ?_⟩
      rcases ends with ⟨_, _, nothing⟩ | ⟨isLineEnd, apart, restEnded⟩
      · have noBlock := (List.append_eq_nil_iff.1 (List.append_eq_nil_iff.1 nothing).2).1
        rw [noBlock] at isLast
        cases isLast
      · exact ⟨isLineEnd, apart, inductionHypothesis restEnded⟩

end PathPolicy.Text
