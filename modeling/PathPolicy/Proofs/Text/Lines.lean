import PathPolicy.Proofs.Text.Trim
import PathPolicy.Text.Pieces

/-!
# Texts of lines

The lines of a text hold no line break, and lines without a line break are the lines of
the text in which each of them ends with a line feed.  A token is a text that can stand for
itself in a line.
-/

namespace PathPolicy.Text

/-- A line holds no line break. -/
def IsUnbroken (line : List Char) : Prop :=
  ∀ c ∈ line, isLineBreak c = false

instance (line : List Char) : Decidable (IsUnbroken line) :=
  decidable_of_iff (line.all fun c => !isLineBreak c) (by simp [IsUnbroken])

theorem isUnbroken_cons_iff {c : Char} {rest : List Char} :
    IsUnbroken (c :: rest) ↔ isLineBreak c = false ∧ IsUnbroken rest :=
  List.forall_mem_cons

theorem isUnbroken_append_iff {left right : List Char} :
    IsUnbroken (left ++ right) ↔ IsUnbroken left ∧ IsUnbroken right :=
  List.forall_mem_append

theorem IsUnbroken.of_subset {line part : List Char} (unbroken : IsUnbroken line)
    (contained : part ⊆ line) : IsUnbroken part :=
  fun c member => unbroken c (contained member)

/-- A token is not empty, has no blanks around it and holds no line break. -/
structure IsToken (token : List Char) : Prop where
  occupied : token ≠ []
  trimmed : IsTrimmed token
  unbroken : IsUnbroken token

theorem isToken_trim {characters : List Char} (unbroken : IsUnbroken characters)
    (occupied : trim characters ≠ []) : IsToken (trim characters) :=
  ⟨occupied, isTrimmed_trim characters, unbroken.of_subset (trim_sublist characters).subset⟩

/-- The text of some lines, each of which ends with a line feed. -/
def unlines (lines : List (List Char)) : List Char :=
  lines.flatMap (· ++ ['\n'])

/-- The lines of a text hold no line break. -/
theorem isUnbroken_of_mem_splitLinesAfter {afterReturn : Bool} {characters line : List Char}
    (member : line ∈ splitLinesAfter afterReturn characters) : IsUnbroken line := by
  induction characters generalizing afterReturn line with
  | nil => cases member
  | cons c rest inductionHypothesis =>
      rw [splitLinesAfter] at member
      split at member
      · exact inductionHypothesis member
      · split at member
        · rcases List.mem_cons.1 member with rfl | later
          · simp [IsUnbroken]
          · exact inductionHypothesis later
        · rename_i noBreak
          have visible : isLineBreak c = false := by simpa using noBreak
          split at member
          · rw [List.mem_singleton.1 member]
            simp [IsUnbroken, visible]
          · rename_i first others lines
            rcases List.mem_cons.1 member with rfl | later
            · have unbroken : IsUnbroken first := inductionHypothesis (by rw [lines]; simp)
              exact List.forall_mem_cons.2 ⟨visible, unbroken⟩
            · exact inductionHypothesis (by rw [lines]; exact List.mem_cons_of_mem _ later)

theorem splitLinesAfter_append_feed {line : List Char} (unbroken : IsUnbroken line)
    (rest : List Char) :
    splitLinesAfter false (line ++ '\n' :: rest) = line :: splitLinesAfter false rest := by
  induction line with
  | nil => rfl
  | cons c others inductionHypothesis =>
      obtain ⟨visible, othersUnbroken⟩ := List.forall_mem_cons.1 unbroken
      rw [List.cons_append, splitLinesAfter]
      simp [visible, inductionHypothesis othersUnbroken]

/-- Lines without a line break are the lines of their text. -/
theorem splitLines_unlines {lines : List (List Char)}
    (unbroken : ∀ line ∈ lines, IsUnbroken line) : splitLines (unlines lines) = lines := by
  induction lines with
  | nil => rfl
  | cons line rest inductionHypothesis =>
      obtain ⟨lineUnbroken, restUnbroken⟩ := List.forall_mem_cons.1 unbroken
      have ended : unlines (line :: rest) = line ++ '\n' :: unlines rest := by simp [unlines]
      rw [ended, splitLines, splitLinesAfter_append_feed lineUnbroken]
      exact congrArg (line :: ·) (inductionHypothesis restUnbroken)

/-- One more line without a line break is the last line of the text. -/
theorem splitLines_unlines_concat {lines : List (List Char)} {last : List Char}
    (unbroken : ∀ line ∈ lines, IsUnbroken line) (lastUnbroken : IsUnbroken last) :
    splitLines (String.ofList (unlines (lines ++ [last]))).toList = lines ++ [last] := by
  have allUnbroken : ∀ line ∈ lines ++ [last], IsUnbroken line := by
    intro line member
    rcases List.mem_append.1 member with earlier | isLast
    · exact unbroken line earlier
    · rw [List.mem_singleton.1 isLast]
      exact lastUnbroken
  rw [String.toList_ofList, splitLines_unlines allUnbroken]

/-! ## Line ends -/

/-- The end of a line: a line break, or a carriage return with the line feed behind it. -/
def IsLineEnd (newline : List Char) : Prop :=
  newline = ['\r', '\n'] ∨ ∃ c, isLineBreak c = true ∧ newline = [c]

theorem splitLinesAfter_eq_nil_iff {characters : List Char} :
    splitLinesAfter false characters = [] ↔ characters = [] := by
  cases characters with
  | nil => simp [splitLinesAfter]
  | cons c rest =>
      rw [splitLinesAfter]
      split
      · simp_all
      · split
        · simp
        · split <;> simp

theorem splitLinesAfter_of_head?_ne {characters : List Char} (noFeed : characters.head? ≠ some '\n')
    (afterReturn : Bool) : splitLinesAfter afterReturn characters = splitLines characters := by
  cases characters with
  | nil => rfl
  | cons c rest =>
      have differs : (c == '\n') = false := by simpa using noFeed
      simp [splitLines, splitLinesAfter, differs]

/-- Unifying the newlines of a text leaves its lines as they are, directly behind a carriage return
and elsewhere. -/
theorem splitLinesAfter_unifyNewlinesAfter (characters : List Char) (afterReturn : Bool) :
    splitLinesAfter false (unifyNewlinesAfter afterReturn characters) =
      splitLinesAfter afterReturn characters := by
  induction characters generalizing afterReturn with
  | nil => rfl
  | cons c rest inductionHypothesis =>
      rw [unifyNewlinesAfter, splitLinesAfter]
      split
      · exact inductionHypothesis false
      · split
        · rename_i isReturn
          have same : c = '\r' := by simpa using isReturn
          subst same
          exact congrArg ([] :: ·) (inductionHypothesis true)
        · rename_i noReturn
          have differs : (c == '\r') = false := by simpa using noReturn
          rw [splitLinesAfter, Bool.false_and, if_neg Bool.false_ne_true, differs,
            inductionHypothesis]

theorem splitLines_unifyNewlines (characters : List Char) :
    splitLines (unifyNewlines characters) = splitLines characters :=
  splitLinesAfter_unifyNewlinesAfter characters false

theorem splitLines_lineEnd_append {newline characters : List Char} (isLineEnd : IsLineEnd newline)
    (noFeed : characters.head? ≠ some '\n') :
    splitLines (newline ++ characters) = [] :: splitLines characters := by
  rcases isLineEnd with rfl | ⟨c, isBreak, rfl⟩
  · rfl
  · rw [List.singleton_append, splitLines, splitLinesAfter, isBreak, Bool.false_and,
      if_neg Bool.false_ne_true, if_pos rfl, splitLinesAfter_of_head?_ne noFeed]

theorem splitLinesAfter_lineEnd_append {newline characters : List Char}
    (isLineEnd : IsLineEnd newline) (noFeed : characters.head? ≠ some '\n') (afterReturn : Bool) :
    splitLinesAfter afterReturn (newline ++ characters) = splitLines characters ∨
      splitLinesAfter afterReturn (newline ++ characters) = [] :: splitLines characters := by
  by_cases isFeed : (newline ++ characters).head? = some '\n'
  · rcases isLineEnd with rfl | ⟨c, isBreak, rfl⟩
    · cases isFeed
    · cases isFeed
      cases afterReturn with
      | false => exact Or.inr (splitLines_lineEnd_append (Or.inr ⟨_, rfl, rfl⟩) noFeed)
      | true => exact Or.inl rfl
  · right
    rw [splitLinesAfter_of_head?_ne isFeed, splitLines_lineEnd_append isLineEnd noFeed]

/-- The lines of two texts with the end of a line between them are those of the first and of the
second; an empty line may stand between them. -/
theorem exists_splitLines_append_lineEnd {newline second : List Char}
    (isLineEnd : IsLineEnd newline) (noFeed : second.head? ≠ some '\n') (first : List Char)
    (afterReturn : Bool) :
    ∃ gap, (∀ line ∈ gap, line = []) ∧
      splitLinesAfter afterReturn (first ++ newline ++ second) =
        splitLinesAfter afterReturn first ++ gap ++ splitLines second := by
  induction first generalizing afterReturn with
  | nil =>
      rcases splitLinesAfter_lineEnd_append isLineEnd noFeed afterReturn with joined | apart
      · exact ⟨[], by simp, joined⟩
      · exact ⟨[[]], by simp, apart⟩
  | cons c rest inductionHypothesis =>
      rw [List.cons_append, List.cons_append, splitLinesAfter, splitLinesAfter]
      split
      · exact inductionHypothesis false
      · split
        · rcases inductionHypothesis (c == '\r') with ⟨gap, empty, lines⟩
          exact ⟨gap, empty, by rw [lines]; rfl⟩
        · cases rest with
          | nil =>
              refine ⟨[], by simp, ?_⟩
              rw [List.nil_append, ← splitLines, splitLines_lineEnd_append isLineEnd noFeed]
              rfl
          | cons d others =>
              rcases inductionHypothesis false with ⟨gap, empty, lines⟩
              refine ⟨gap, empty, ?_⟩
              rw [lines]
              cases present : splitLinesAfter false (d :: others) with
              | nil =>
                  exact absurd (splitLinesAfter_eq_nil_iff.1 present) (List.cons_ne_nil d others)
              | cons line later => rfl

end PathPolicy.Text
