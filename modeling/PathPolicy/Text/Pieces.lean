/-!
# Blanks, pieces and lines

The blank characters are the white space of the whole of Unicode; trimming removes them at
both ends of a text and nowhere else.  Cutting a text at every separator always gives one
piece more than there are separators.  A policy is read line by line: ten characters end a
line, and a carriage return directly before a line feed ends it together with that line
feed; the end of the text ends a line only if the line holds a character.
-/

namespace PathPolicy.Text

/-! ## Blanks -/

/-- A blank character separates words and never belongs to one. -/
def isBlank (c : Char) : Bool :=
  let code := c.val.toNat
  (9 ≤ code && code ≤ 13) || (28 ≤ code && code ≤ 32) || code == 0x85 || code == 0xa0 ||
    code == 0x1680 || (0x2000 ≤ code && code ≤ 0x200a) || code == 0x2028 || code == 0x2029 ||
    code == 0x202f || code == 0x205f || code == 0x3000

/-- The characters that are left when the blanks in front are removed. -/
def trimStart (characters : List Char) : List Char :=
  characters.dropWhile isBlank

/-- The characters that are left when the blanks at the end are removed. -/
def trimEnd : List Char → List Char
  | [] => []
  | c :: rest =>
      match trimEnd rest with
      | [] => if isBlank c then [] else [c]
      | kept => c :: kept

/-- The characters that are left when the blanks at both ends are removed. -/
def trim (characters : List Char) : List Char :=
  trimEnd (trimStart characters)

/-- A text is trimmed when no blank stands at either of its ends. -/
def IsTrimmed (characters : List Char) : Prop :=
  trim characters = characters

instance (characters : List Char) : Decidable (IsTrimmed characters) :=
  inferInstanceAs (Decidable (trim characters = characters))

/-- The text without the blanks at its ends. -/
def trimmed (text : String) : String :=
  String.ofList (trim text.toList)

/-- Trimming the end keeps a character in front that is not blank. -/
theorem trimEnd_cons_of_not_blank {c : Char} (visible : isBlank c = false) (rest : List Char) :
    trimEnd (c :: rest) = c :: trimEnd rest := by
  rw [trimEnd]
  cases trimEnd rest <;> simp [visible]

/-! ## Pieces -/

/-- The pieces between the separators, the empty ones included. -/
def splitAt (separator : Char) : List Char → List (List Char)
  | [] => [[]]
  | c :: rest =>
      if c = separator then [] :: splitAt separator rest
      else
        match splitAt separator rest with
        | [] => [[c]]
        | piece :: pieces => (c :: piece) :: pieces

/-- The characters before the first one of the class and the characters behind
it, or nothing if the class does not occur. -/
def breakFirst (separates : Char → Bool) : List Char → Option (List Char × List Char)
  | [] => none
  | c :: rest =>
      if separates c then some ([], rest)
      else (breakFirst separates rest).map fun cut => (c :: cut.1, cut.2)

/-- There is always a first piece. -/
theorem splitAt_ne_nil (separator : Char) (characters : List Char) :
    splitAt separator characters ≠ [] := by
  cases characters with
  | nil => simp [splitAt]
  | cons c rest =>
      rw [splitAt]
      split
      · simp
      · split <;> simp

/-- A text without the separator is its own only piece. -/
theorem splitAt_of_not_mem {separator : Char} {characters : List Char}
    (absent : separator ∉ characters) : splitAt separator characters = [characters] := by
  induction characters with
  | nil => rfl
  | cons c rest inductionHypothesis =>
      simp only [List.mem_cons, not_or] at absent
      rw [splitAt, if_neg (Ne.symm absent.1), inductionHypothesis absent.2]

/-- No piece holds the separator. -/
theorem not_mem_of_mem_splitAt {separator : Char} {characters piece : List Char}
    (member : piece ∈ splitAt separator characters) : separator ∉ piece := by
  induction characters generalizing piece with
  | nil =>
      rw [splitAt, List.mem_singleton] at member
      simp [member]
  | cons c rest inductionHypothesis =>
      rw [splitAt] at member
      split at member
      · rcases List.mem_cons.1 member with rfl | later
        · simp
        · exact inductionHypothesis later
      · rename_i different
        split at member
        · rw [List.mem_singleton] at member
          simp [member, Ne.symm different]
        · rename_i first others pieces
          rcases List.mem_cons.1 member with rfl | later
          · have clean : separator ∉ first := inductionHypothesis (by rw [pieces]; simp)
            simp [Ne.symm different, clean]
          · exact inductionHypothesis (by rw [pieces]; simp [later])

/-! ## Lines -/

/-- A line break ends the line that it stands on. -/
def isLineBreak (c : Char) : Bool :=
  c == '\n' || c == '\r' || c == '\x0b' || c == '\x0c' || c == '\x1c' || c == '\x1d' ||
    c == '\x1e' || c == '\u0085' || c == '\u2028' || c == '\u2029'

/-- The lines of a text without their breaks.  Directly behind a carriage return
a line feed still belongs to the break before it. -/
def splitLinesAfter (afterReturn : Bool) : List Char → List (List Char)
  | [] => []
  | c :: rest =>
      if afterReturn && c == '\n' then splitLinesAfter false rest
      else if isLineBreak c then [] :: splitLinesAfter (c == '\r') rest
      else
        match splitLinesAfter false rest with
        | [] => [[c]]
        | line :: lines => (c :: line) :: lines

/-- The lines of a text without their breaks. -/
def splitLines (characters : List Char) : List (List Char) :=
  splitLinesAfter false characters

/-- The text with every carriage return, alone or before a line feed, written as
one line feed.  Directly behind a carriage return a line feed adds nothing. -/
def unifyNewlinesAfter (afterReturn : Bool) : List Char → List Char
  | [] => []
  | c :: rest =>
      if afterReturn && c == '\n' then unifyNewlinesAfter false rest
      else if c == '\r' then '\n' :: unifyNewlinesAfter true rest
      else c :: unifyNewlinesAfter false rest

/-- The text with every carriage return, alone or before a line feed, written as
one line feed. -/
def unifyNewlines (characters : List Char) : List Char :=
  unifyNewlinesAfter false characters

/-- A text without a line break has no more than one line, and none if it is
empty. -/
theorem splitLinesAfter_of_unbroken {characters : List Char} (afterReturn : Bool)
    (unbroken : ∀ c ∈ characters, isLineBreak c = false) :
    splitLinesAfter afterReturn characters = if characters = [] then [] else [characters] := by
  induction characters generalizing afterReturn with
  | nil => rfl
  | cons c rest inductionHypothesis =>
      have visible : isLineBreak c = false := unbroken c (by simp)
      have notFeed : (c == '\n') = false := by
        cases same : c == '\n' with
        | false => rfl
        | true => simp [isLineBreak, same] at visible
      simp only [splitLinesAfter, notFeed, visible, Bool.and_false, Bool.false_eq_true, if_false]
      rw [inductionHypothesis false fun d member => unbroken d (List.mem_cons_of_mem c member)]
      cases rest <;> simp

end PathPolicy.Text
