import PathPolicy.PolicyText.Parse

/-!
# Runs over lines

A run over some lines goes on where a run over the first of them ended, and a warning is
about the one line whose number it carries.
-/

namespace PathPolicy.PolicyText

namespace Reading

/-- The reading after some more lines. -/
def reached (reading : Reading) (lines : List Line) : Reading :=
  lines.foldl (fun reading line => (reading.step line).1) reading

@[simp]
theorem reached_nil (reading : Reading) : reading.reached [] = reading :=
  rfl

@[simp]
theorem reached_cons (reading : Reading) (line : Line) (rest : List Line) :
    reading.reached (line :: rest) = (reading.step line).1.reached rest :=
  rfl

@[simp]
theorem reached_append (reading : Reading) (first second : List Line) :
    reading.reached (first ++ second) = (reading.reached first).reached second :=
  List.foldl_append

/-- A run ends where its lines lead, whatever their numbers are. -/
theorem run_fst (reading : Reading) (number : Nat) (lines : List Line) :
    (reading.run number lines).1 = reading.reached lines := by
  induction lines generalizing reading number with
  | nil => rfl
  | cons line rest inductionHypothesis => exact inductionHypothesis _ (number + 1)

theorem run_cons (reading : Reading) (number : Nat) (line : Line) (rest : List Line) :
    reading.run number (line :: rest) =
      (((reading.step line).1.run (number + 1) rest).1,
        ((reading.step line).2.map (LineWarning.mk number)).toList ++
          ((reading.step line).1.run (number + 1) rest).2) :=
  rfl

/-- A run over some lines and more goes on where the first of them lead. -/
theorem run_append (reading : Reading) (number : Nat) (first second : List Line) :
    reading.run number (first ++ second) =
      (((reading.reached first).run (number + first.length) second).1,
        (reading.run number first).2 ++
          ((reading.reached first).run (number + first.length) second).2) := by
  induction first generalizing reading number with
  | nil => rfl
  | cons line rest inductionHypothesis =>
      rw [List.cons_append, run_cons, inductionHypothesis, run_cons, reached_cons,
        List.length_cons, Nat.add_assoc, Nat.add_comm 1, List.append_assoc]

/-- A warning is about the line whose number it carries, which is at fault where the lines
before it lead. -/
theorem mem_run_snd_iff {reading : Reading} {number : Nat} {lines : List Line}
    {warning : LineWarning} :
    warning ∈ (reading.run number lines).2 ↔
      ∃ before line after, lines = before ++ line :: after ∧
        warning.line = number + before.length ∧
        ((reading.reached before).step line).2 = some warning.fault := by
  induction lines generalizing reading number with
  | nil => simp [run]
  | cons line rest inductionHypothesis =>
      have isFirst : warning ∈ ((reading.step line).2.map (LineWarning.mk number)).toList ↔
          warning.line = number ∧ (reading.step line).2 = some warning.fault := by
        obtain ⟨warned, fault⟩ := warning
        cases (reading.step line).2 with
        | none => simp
        | some found => simp [eq_comm]
      rw [run, List.mem_append, isFirst, inductionHypothesis]
      constructor
      · rintro (⟨numbered, faulty⟩ | ⟨before, culprit, after, rfl, numbered, faulty⟩)
        · exact ⟨[], line, rest, rfl, numbered, faulty⟩
        · refine ⟨line :: before, culprit, after, rfl, ?_, faulty⟩
          rw [numbered, List.length_cons]
          omega
      · rintro ⟨before, culprit, after, split, numbered, faulty⟩
        cases before with
        | nil =>
            cases split
            exact Or.inl ⟨numbered, faulty⟩
        | cons first before =>
            cases split
            refine Or.inr ⟨before, culprit, after, rfl, ?_, faulty⟩
            rw [numbered, List.length_cons]
            omega

/-- The warnings of a run carry rising numbers. -/
theorem pairwise_line_run (reading : Reading) (number : Nat) (lines : List Line) :
    ((reading.run number lines).2.map LineWarning.line).Pairwise (· < ·) := by
  induction lines generalizing reading number with
  | nil => exact List.Pairwise.nil
  | cons line rest inductionHypothesis =>
      have later : ∀ warning ∈ ((reading.step line).1.run (number + 1) rest).2,
          number < warning.line := by
        intro warning member
        rcases mem_run_snd_iff.1 member with ⟨before, _, _, _, numbered, _⟩
        omega
      rw [run_cons]
      cases (reading.step line).2 with
      | none => exact inductionHypothesis _ _
      | some fault =>
          simp only [Option.map_some, Option.toList_some, List.singleton_append, List.map_cons,
            List.pairwise_cons, List.mem_map]
          refine ⟨?_, inductionHypothesis _ _⟩
          rintro _ ⟨warning, member, rfl⟩
          exact later warning member

/-- The warnings with the number of a line are what is wrong with that line. -/
theorem filter_line_run (reading : Reading) (number : Nat) (before : List Line) (line : Line)
    (after : List Line) :
    (reading.run number (before ++ line :: after)).2.filter
        (fun warning => warning.line == number + before.length) =
      (((reading.reached before).step line).2.map
        (LineWarning.mk (number + before.length))).toList := by
  have noneBefore : (reading.run number before).2.filter
      (fun warning => warning.line == number + before.length) = [] := by
    rw [List.filter_eq_nil_iff]
    intro warning member
    rcases mem_run_snd_iff.1 member with ⟨first, _, rest, rfl, numbered, _⟩
    simp only [numbered, List.length_append, List.length_cons, beq_iff_eq]
    omega
  have noneAfter : (((reading.reached before).step line).1.run (number + before.length + 1)
      after).2.filter (fun warning => warning.line == number + before.length) = [] := by
    rw [List.filter_eq_nil_iff]
    intro warning member
    rcases mem_run_snd_iff.1 member with ⟨_, _, _, _, numbered, _⟩
    simp only [numbered, beq_iff_eq]
    omega
  rw [run_append, run_cons, List.filter_append, List.filter_append, noneBefore, noneAfter,
    List.nil_append, List.append_nil]
  cases ((reading.reached before).step line).2 with
  | none => rfl
  | some fault => simp

/-- Lines without a character change no section, and the one that is open stays open. -/
theorem reached_empty (reading : Reading) {lines : List (List Char)}
    (empty : ∀ line ∈ lines, line = []) :
    (reading.reached (lines.map Line.ofText)).sections = reading.sections ∧
      (reading.reached (lines.map Line.ofText)).current = reading.current := by
  induction lines generalizing reading with
  | nil => exact ⟨rfl, rfl⟩
  | cons line rest inductionHypothesis =>
      rw [List.forall_mem_cons] at empty
      rcases empty with ⟨rfl, restEmpty⟩
      exact inductionHypothesis (reading.step (.ofText [])).1 restEmpty

end Reading

/-- The reading after the first lines of a text. -/
def readingOf (lines : List (List Char)) : Reading :=
  Reading.start.reached (lines.map Line.ofText)

theorem readingOf_append (first second : List (List Char)) :
    readingOf (first ++ second) = (readingOf first).reached (second.map Line.ofText) := by
  rw [readingOf, List.map_append, Reading.reached_append, readingOf]

theorem readingOf_concat (lines : List (List Char)) (last : List Char) :
    readingOf (lines ++ [last]) = ((readingOf lines).step (.ofText last)).1 := by
  rw [readingOf_append, List.map_singleton, Reading.reached_cons, Reading.reached_nil]

theorem readSections_fst (text : String) :
    (readSections text).1 = (readingOf (Text.splitLines text.toList)).sections := by
  rw [readingOf, ← Reading.run_fst Reading.start 1]
  rfl

theorem linesOf_of_split {text : String} {before after : List (List Char)} {line : List Char}
    (split : Text.splitLines text.toList = before ++ line :: after) :
    linesOf text = before.map Line.ofText ++ Line.ofText line :: after.map Line.ofText := by
  rw [linesOf, split, List.map_append, List.map_cons]

/-- There is a warning about a line exactly when it is at fault where the lines before it
lead. -/
theorem mem_readSections_snd_iff {text : String} {before after : List (List Char)}
    {line : List Char} (split : Text.splitLines text.toList = before ++ line :: after)
    {fault : LineFault} :
    ⟨before.length + 1, fault⟩ ∈ (readSections text).2 ↔
      ((readingOf before).step (.ofText line)).2 = some fault := by
  have warnings : (readSections text).2 = (Reading.start.run 1 (linesOf text)).2 := rfl
  rw [warnings, Reading.mem_run_snd_iff, linesOf_of_split split]
  constructor
  · rintro ⟨first, culprit, rest, sameLines, numbered, faulty⟩
    have sameLength : (before.map Line.ofText).length = first.length := by
      simp only [List.length_map] at numbered ⊢
      omega
    obtain ⟨rfl, sameRest⟩ := List.append_inj sameLines sameLength
    cases sameRest
    exact faulty
  · intro faulty
    refine ⟨before.map Line.ofText, .ofText line, after.map Line.ofText, rfl, ?_, faulty⟩
    simp only [List.length_map]
    omega

end PathPolicy.PolicyText
