import PathPolicy.Text.Pieces

/-!
# Pieces of a text

A text is cut at its first separator into what stands before it and what stands behind it.  The
pieces of a text in which two items are joined by a separator, and by a gap behind it, are these
items again, each but the first with the gap in front.
-/

namespace PathPolicy.Text

/-- A text is cut where a character of the class stands and none before it does. -/
theorem breakFirst_eq_some_iff {separates : Char → Bool} {characters before after : List Char} :
    breakFirst separates characters = some (before, after) ↔
      ∃ separator, characters = before ++ separator :: after ∧ separates separator = true ∧
        ∀ c ∈ before, separates c = false := by
  induction characters generalizing before with
  | nil => simp [breakFirst]
  | cons c rest inductionHypothesis =>
      cases found : separates c with
      | true =>
          rw [breakFirst, if_pos found]
          constructor
          · intro cut
            cases cut
            exact ⟨c, rfl, found, by simp⟩
          · rintro ⟨separator, split, _, clean⟩
            cases before with
            | nil =>
                cases split
                rfl
            | cons first others =>
                cases split
                rw [clean c List.mem_cons_self] at found
                cases found
      | false =>
          rw [breakFirst, if_neg (by simp [found]), Option.map_eq_some_iff]
          constructor
          · rintro ⟨⟨front, back⟩, cut, same⟩
            cases same
            rcases inductionHypothesis.1 cut with ⟨separator, rfl, separates, clean⟩
            exact ⟨separator, rfl, separates, List.forall_mem_cons.2 ⟨found, clean⟩⟩
          · rintro ⟨separator, split, separates, clean⟩
            cases before with
            | nil =>
                cases split
                rw [separates] at found
                cases found
            | cons first others =>
                cases split
                have cut := inductionHypothesis.2
                  ⟨separator, rfl, separates, (List.forall_mem_cons.1 clean).2⟩
                exact ⟨_, cut, rfl⟩

/-- A piece is made of characters of the text. -/
theorem subset_of_mem_splitAt {separator : Char} {characters piece : List Char}
    (member : piece ∈ splitAt separator characters) : piece ⊆ characters := by
  induction characters generalizing piece with
  | nil =>
      rw [splitAt, List.mem_singleton] at member
      rw [member]
      exact List.nil_subset _
  | cons c rest inductionHypothesis =>
      rw [splitAt] at member
      split at member
      · rcases List.mem_cons.1 member with rfl | later
        · exact List.nil_subset _
        · exact List.subset_cons_of_subset c (inductionHypothesis later)
      · split at member
        · rw [List.mem_singleton.1 member]
          exact List.cons_subset_cons c (List.nil_subset _)
        · rename_i first others pieces
          rcases List.mem_cons.1 member with rfl | later
          · exact List.cons_subset_cons c (inductionHypothesis (by simp [pieces]))
          · exact List.subset_cons_of_subset c (inductionHypothesis (by simp [pieces, later]))

theorem splitAt_append_separator {separator : Char} {piece : List Char}
    (absent : separator ∉ piece) (rest : List Char) :
    splitAt separator (piece ++ separator :: rest) = piece :: splitAt separator rest := by
  induction piece with
  | nil => simp [splitAt]
  | cons c others inductionHypothesis =>
      rw [List.mem_cons, not_or] at absent
      rw [List.cons_append, splitAt, if_neg (Ne.symm absent.1), inductionHypothesis absent.2]

theorem splitAt_cons_of_ne {separator c : Char} (differs : c ≠ separator) {rest piece : List Char}
    {pieces : List (List Char)} (cut : splitAt separator rest = piece :: pieces) :
    splitAt separator (c :: rest) = (c :: piece) :: pieces := by
  rw [splitAt, if_neg differs, cut]

theorem splitAt_append_of_not_mem {separator : Char} {front rest piece : List Char}
    {pieces : List (List Char)} (absent : separator ∉ front)
    (cut : splitAt separator rest = piece :: pieces) :
    splitAt separator (front ++ rest) = (front ++ piece) :: pieces := by
  induction front with
  | nil => exact cut
  | cons c others inductionHypothesis =>
      rw [List.mem_cons, not_or] at absent
      rw [List.cons_append, splitAt_cons_of_ne (Ne.symm absent.1) (inductionHypothesis absent.2),
        List.cons_append]

/-- A text is cut at each of its separators by itself. -/
theorem splitAt_append_cons (separator : Char) (before after : List Char) :
    splitAt separator (before ++ separator :: after) =
      splitAt separator before ++ splitAt separator after := by
  induction before with
  | nil => simp [splitAt]
  | cons c rest inductionHypothesis =>
      by_cases same : c = separator
      · rw [same, List.cons_append, splitAt, if_pos rfl, inductionHypothesis, splitAt, if_pos rfl,
          List.cons_append]
      · cases cut : splitAt separator rest with
        | nil => exact absurd cut (splitAt_ne_nil separator rest)
        | cons piece pieces =>
            rw [cut] at inductionHypothesis
            rw [List.cons_append, splitAt_cons_of_ne same inductionHypothesis,
              splitAt_cons_of_ne same cut]
            rfl

/-- The items of a list are what stands between its separators, but for what goes with these. -/
theorem splitAt_intercalate {separator : Char} {gap first : List Char} {others : List (List Char)}
    (gapAbsent : separator ∉ gap) (absent : ∀ item ∈ first :: others, separator ∉ item) :
    splitAt separator ((separator :: gap).intercalate (first :: others)) =
      first :: others.map (gap ++ ·) := by
  -- The separators are found from the first to the last, so the items are taken from the front.
  induction others generalizing first with
  | nil =>
      rw [List.intercalate_singleton]
      exact splitAt_of_not_mem (absent first (by simp))
  | cons second others inductionHypothesis =>
      rw [List.forall_mem_cons] at absent
      rcases absent with ⟨firstAbsent, othersAbsent⟩
      have later := splitAt_append_of_not_mem gapAbsent (inductionHypothesis othersAbsent)
      rw [List.intercalate_cons_cons, List.append_assoc, List.cons_append,
        splitAt_append_separator firstAbsent, later, List.map_cons]

end PathPolicy.Text
