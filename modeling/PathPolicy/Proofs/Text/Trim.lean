import Mathlib.Data.List.DropRight
import Mathlib.Data.List.Induction
import PathPolicy.Text.Pieces

/-!
# Trimming

A text is trimmed exactly when neither its first nor its last character is a blank.  So trimming a
text a second time changes nothing, and two trimmed texts are trimmed together, whatever is put
between them.
-/

namespace PathPolicy.Text

theorem trimEnd_concat (characters : List Char) (last : Char) :
    trimEnd (characters ++ [last]) =
      if isBlank last then trimEnd characters else characters ++ [last] := by
  induction characters with
  | nil => simp [trimEnd]
  | cons c rest inductionHypothesis =>
      rw [List.cons_append, trimEnd, inductionHypothesis]
      cases isBlank last with
      | true => rfl
      | false => cases rest <;> rfl

/-- The end is trimmed by dropping blanks from the right. -/
theorem trimEnd_eq_rdropWhile (characters : List Char) :
    trimEnd characters = characters.rdropWhile isBlank := by
  induction characters using List.reverseRecOn with
  | nil => rfl
  | append_singleton earlier last inductionHypothesis =>
      rw [trimEnd_concat, List.rdropWhile_concat, inductionHypothesis]

/-- Trimming only takes characters away. -/
theorem trim_sublist (characters : List Char) : (trim characters).Sublist characters := by
  rw [trim, trimEnd_eq_rdropWhile]
  exact (List.rdropWhile_prefix isBlank _).sublist.trans (List.dropWhile_sublist isBlank)

/-- What is left of a text has no blank in front. -/
theorem visible_of_mem_head?_trim {characters : List Char} :
    ∀ c ∈ (trim characters).head?, isBlank c = false := by
  intro c first
  rcases List.head?_eq_some_iff.1 first with ⟨rest, trimmed⟩
  have visible := List.head?_dropWhile_not isBlank characters
  have isPrefix : trim characters <+: characters.dropWhile isBlank := by
    rw [trim, trimEnd_eq_rdropWhile]
    exact List.rdropWhile_prefix _ _
  rcases isPrefix with ⟨dropped, whole⟩
  rw [trimmed, List.cons_append] at whole
  rw [← whole] at visible
  exact visible

theorem visible_of_mem_getLast?_trim {characters : List Char} :
    ∀ c ∈ (trim characters).getLast?, isBlank c = false := by
  intro c last
  rcases List.getLast?_eq_some_iff.1 last with ⟨front, trimmed⟩
  rw [trim, trimEnd_eq_rdropWhile] at trimmed
  have occupied : (trimStart characters).rdropWhile isBlank ≠ [] := by simp [trimmed]
  have visible := List.rdropWhile_last_not isBlank _ occupied
  simpa [trimmed] using visible

/-- A text is trimmed when neither its first nor its last character is a blank. -/
theorem isTrimmed_iff {characters : List Char} :
    IsTrimmed characters ↔ (∀ c ∈ characters.head?, isBlank c = false) ∧
      ∀ c ∈ characters.getLast?, isBlank c = false := by
  constructor
  · intro trimmed
    rw [← show trim characters = characters from trimmed]
    exact ⟨visible_of_mem_head?_trim, visible_of_mem_getLast?_trim⟩
  · rintro ⟨first, last⟩
    have start : trimStart characters = characters := by
      rw [trimStart, List.dropWhile_eq_self_iff]
      intro occupied
      rw [first _ (List.head?_eq_getElem? ▸ List.getElem?_eq_getElem occupied)]
      exact Bool.false_ne_true
    rw [IsTrimmed, trim, start, trimEnd_eq_rdropWhile, List.rdropWhile_eq_self_iff]
    intro occupied
    rw [last _ (List.getLast?_eq_some_getLast occupied)]
    exact Bool.false_ne_true

/-- What has been trimmed is trimmed. -/
theorem isTrimmed_trim (characters : List Char) : IsTrimmed (trim characters) :=
  isTrimmed_iff.2 ⟨visible_of_mem_head?_trim, visible_of_mem_getLast?_trim⟩

theorem trim_toList_trimmed (text : String) : trim (trimmed text).toList = trim text.toList := by
  rw [trimmed, String.toList_ofList]
  exact isTrimmed_trim text.toList

theorem trimmed_trimmed (text : String) : trimmed (trimmed text) = trimmed text := by
  rw [trimmed, trim_toList_trimmed]
  rfl

theorem trim_cons_of_blank {c : Char} (blank : isBlank c = true) (rest : List Char) :
    trim (c :: rest) = trim rest := by
  rw [trim, trimStart, List.dropWhile_cons_of_pos blank]
  rfl

theorem trim_concat_of_blank {c : Char} (blank : isBlank c = true) (front : List Char) :
    trim (front ++ [c]) = trim front := by
  rw [trim, trim, trimStart, trimStart, List.dropWhile_append]
  split
  · rename_i nothing
    rw [List.isEmpty_iff.1 nothing, List.dropWhile_cons_of_pos blank]
    rfl
  · rw [trimEnd_concat, if_pos blank]

/-- Blanks in front of a text do not matter. -/
theorem trim_blanks_append {gap : List Char} (blank : ∀ c ∈ gap, isBlank c = true)
    (rest : List Char) : trim (gap ++ rest) = trim rest := by
  induction gap with
  | nil => rfl
  | cons c others inductionHypothesis =>
      rw [List.forall_mem_cons] at blank
      rw [List.cons_append, trim_cons_of_blank blank.1, inductionHypothesis blank.2]

/-- Blanks behind a text do not matter. -/
theorem trim_append_blanks {gap : List Char} (blank : ∀ c ∈ gap, isBlank c = true)
    (front : List Char) : trim (front ++ gap) = trim front := by
  induction gap using List.reverseRecOn with
  | nil => rw [List.append_nil]
  | append_singleton others last inductionHypothesis =>
      rw [List.forall_mem_append, List.forall_mem_singleton] at blank
      rw [← List.append_assoc, trim_concat_of_blank blank.2, inductionHypothesis blank.1]

theorem trim_cons_of_visible {c : Char} (visible : isBlank c = false) (rest : List Char) :
    trim (c :: rest) = c :: trimEnd rest := by
  rw [trim, trimStart, List.dropWhile_cons_of_neg (by simp [visible]),
    trimEnd_cons_of_not_blank visible]

/-- Texts that are trimmed and not empty are trimmed together, with anything between them. -/
theorem IsTrimmed.append {left right : List Char} (leftTrimmed : IsTrimmed left)
    (rightTrimmed : IsTrimmed right) (leftOccupied : left ≠ []) (rightOccupied : right ≠ [])
    (between : List Char) : IsTrimmed (left ++ between ++ right) := by
  rw [isTrimmed_iff] at leftTrimmed rightTrimmed ⊢
  constructor
  · rw [List.append_assoc, List.head?_append_of_ne_nil _ leftOccupied]
    exact leftTrimmed.1
  · rw [List.getLast?_append_of_ne_nil _ rightOccupied]
    exact rightTrimmed.2

end PathPolicy.Text
