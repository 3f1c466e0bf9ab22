import PathPolicy.PolicyText.Parse
import PathPolicy.Proofs.Text.Lines
import PathPolicy.Proofs.Text.Pieces
import PathPolicy.Proofs.Text.Trim

/-!
# Kinds of lines

When a line is a header, an entry or a continuation, and what it then says.  The name in a header is
a text of its own kind, and so is the key of an entry; any text of that kind can be written into a
line of the kind and is read from it again.
-/

namespace PathPolicy.PolicyText

/-- A text that a section header can name. -/
structure IsSectionName (name : List Char) : Prop extends Text.IsToken name where
  unclosed : ']' ∉ name

/-- A text that the key of an entry can be: it begins as no header and no comment does. -/
structure IsKey (key : List Char) : Prop extends Text.IsToken key where
  opens : ∀ c ∈ key.head?, c ≠ '[' ∧ c ≠ '#' ∧ c ≠ ';'
  unseparated : ∀ c ∈ key, c ≠ ':' ∧ c ≠ '='

namespace Line

/-! ## What a line says -/

theorem opensComment_eq_false_iff {c : Char} : opensComment c = false ↔ c ≠ '#' ∧ c ≠ ';' := by
  simp [opensComment]

theorem isSeparator_eq_false_iff {c : Char} : isSeparator c = false ↔ c ≠ ':' ∧ c ≠ '=' := by
  simp [isSeparator]

theorem ofBracketed_eq_header_iff {characters name : List Char} :
    ofBracketed characters = .header name ↔
      ∃ inner, Text.breakFirst (· == ']') characters = some (inner, []) ∧
        Text.trim inner = name ∧ name ≠ [] := by
  rw [ofBracketed]
  split
  · rename_i inner cut
    rw [cut]
    by_cases empty : Text.trim inner = []
    · rw [if_pos empty]
      constructor
      · intro impossible
        cases impossible
      · rintro ⟨_, ⟨⟩, rfl, occupied⟩
        exact absurd empty occupied
    · rw [if_neg empty]
      constructor
      · rintro ⟨⟩
        exact ⟨inner, rfl, rfl, empty⟩
      · rintro ⟨_, ⟨⟩, rfl, _⟩
        rfl
  · rename_i otherwise
    constructor
    · intro impossible
      cases impossible
    · rintro ⟨inner, cut, _⟩
      exact absurd cut (otherwise inner)

theorem ofUnbracketed_eq_entry_iff {characters key value : List Char} :
    ofUnbracketed characters = .entry key value ↔
      ∃ before after, Text.breakFirst isSeparator characters = some (before, after) ∧
        before ≠ [] ∧ Text.trim before = key ∧ Text.trim after = value := by
  rw [ofUnbracketed]
  split
  · rename_i before after cut
    rw [cut]
    by_cases empty : before = []
    · rw [if_pos empty]
      simp [empty]
    · rw [if_neg empty]
      simp [empty]
  · rename_i uncut
    simp [uncut]

theorem ofBracketed_cases (characters : List Char) :
    ofBracketed characters = .brokenHeader ∨ ∃ name, ofBracketed characters = .header name := by
  rw [ofBracketed]
  split
  · split
    · exact Or.inl rfl
    · exact Or.inr ⟨_, rfl⟩
  · exact Or.inl rfl

theorem ofUnbracketed_cases (characters : List Char) :
    ofUnbracketed characters = .malformed characters ∨
      ∃ key value, ofUnbracketed characters = .entry key value := by
  rw [ofUnbracketed]
  split
  · split
    · exact Or.inl rfl
    · exact Or.inr ⟨_, _, rfl⟩
  · exact Or.inl rfl

/-- A line is a header when it begins with a bracket in the first column and its name is closed. -/
theorem ofText_eq_header_iff {line name : List Char} :
    ofText line = .header name ↔
      ∃ rest, Text.trim line = '[' :: rest ∧ isIndented line = false ∧
        ofBracketed rest = .header name := by
  rw [ofText]
  cases trimmed : Text.trim line with
  | nil => simp
  | cons first rest =>
      cases comment : opensComment first with
      | true =>
          have differs : first ≠ '[' := by
            rintro rfl
            cases comment
          simp [comment, differs]
      | false =>
          cases indented : isIndented line with
          | true => simp [comment]
          | false =>
              by_cases bracket : first = '['
              · subst bracket
                simp [comment]
              · rcases ofUnbracketed_cases (first :: rest) with malformed | ⟨key, value, entry⟩
                · simp [comment, bracket, malformed]
                · simp [comment, bracket, entry]

/-- A line is an entry when it begins in the first column, as no comment and no header, and has a
key in front of a separator. -/
theorem ofText_eq_entry_iff {line key value : List Char} :
    ofText line = .entry key value ↔
      ∃ first rest, Text.trim line = first :: rest ∧ opensComment first = false ∧
        isIndented line = false ∧ first ≠ '[' ∧
        ofUnbracketed (first :: rest) = .entry key value := by
  rw [ofText]
  cases trimmed : Text.trim line with
  | nil => simp
  | cons first rest =>
      cases comment : opensComment first with
      | true => simp [comment]
      | false =>
          cases indented : isIndented line with
          | true => simp [comment]
          | false =>
              by_cases bracket : first = '['
              · subst bracket
                rcases ofBracketed_cases rest with broken | ⟨name, header⟩
                · simp [comment, broken]
                · simp [comment, header]
              · simp [comment, bracket]

theorem ofText_cases_of_flush {line rest : List Char} {first : Char}
    (trimmed : Text.trim line = first :: rest) (noComment : opensComment first = false)
    (flush : isIndented line = false) :
    (∃ name, ofText line = .header name) ∨ ofText line = .brokenHeader ∨
      (∃ key value, ofText line = .entry key value) ∨ ∃ text, ofText line = .malformed text := by
  rw [ofText, trimmed]
  simp only [noComment, flush, Bool.false_eq_true, if_false]
  split
  · rcases ofBracketed_cases rest with broken | header
    · exact Or.inr (Or.inl broken)
    · exact Or.inl header
  · rcases ofUnbracketed_cases (first :: rest) with malformed | entry
    · exact Or.inr (Or.inr (Or.inr ⟨_, malformed⟩))
    · exact Or.inr (Or.inr (Or.inl entry))

theorem ofText_of_indented {line rest : List Char} {first : Char}
    (trimmed : Text.trim line = first :: rest) (noComment : opensComment first = false)
    (indented : isIndented line = true) : ofText line = .continuation (first :: rest) := by
  rw [ofText, trimmed]
  simp [noComment, indented]

/-- A line is a comment when its first visible character opens one. -/
theorem ofText_eq_comment_iff {line : List Char} :
    ofText line = .comment ↔ ∃ c ∈ (Text.trim line).head?, opensComment c = true := by
  cases trimmed : Text.trim line with
  | nil => simp [ofText, trimmed]
  | cons first rest =>
      cases comment : opensComment first with
      | true => simp [ofText, trimmed, comment]
      | false =>
          cases indented : isIndented line with
          | true => simp [ofText_of_indented trimmed comment indented, comment]
          | false =>
              rcases ofText_cases_of_flush trimmed comment indented with
                ⟨_, kind⟩ | kind | ⟨_, _, kind⟩ | ⟨_, kind⟩ <;> simp [kind, comment]

/-- A line is a continuation when it is indented and says something that is no comment. -/
theorem ofText_eq_continuation_iff {line text : List Char} :
    ofText line = .continuation text ↔
      isIndented line = true ∧ Text.trim line = text ∧
        ∃ c ∈ text.head?, opensComment c = false := by
  cases trimmed : Text.trim line with
  | nil =>
      have isBlank : ofText line = .blank := by simp [ofText, trimmed]
      simp only [isBlank, reduceCtorEq, false_iff]
      rintro ⟨_, rfl, c, isFirst, _⟩
      cases isFirst
  | cons first rest =>
      cases comment : opensComment first with
      | true =>
          have isComment : ofText line = .comment := by simp [ofText, trimmed, comment]
          simp only [isComment, reduceCtorEq, false_iff]
          rintro ⟨_, rfl, c, isFirst, noComment⟩
          cases isFirst
          rw [comment] at noComment
          cases noComment
      | false =>
          cases indented : isIndented line with
          | true =>
              rw [ofText_of_indented trimmed comment indented, continuation.injEq]
              constructor
              · rintro rfl
                exact ⟨rfl, rfl, first, rfl, comment⟩
              · rintro ⟨_, same, _⟩
                exact same
          | false =>
              rcases ofText_cases_of_flush trimmed comment indented with
                ⟨_, kind⟩ | kind | ⟨_, _, kind⟩ | ⟨_, kind⟩ <;> simp [kind]

/-- A line begins with a bracket in the first column exactly when it is a header or a broken one. -/
theorem head?_eq_bracket_iff {line : List Char} :
    line.head? = some '[' ↔ ofText line = .brokenHeader ∨ ∃ name, ofText line = .header name := by
  constructor
  · intro bracket
    rcases List.head?_eq_some_iff.1 bracket with ⟨rest, rfl⟩
    have flush : isIndented ('[' :: rest) = false := rfl
    rw [ofText, Text.trim_cons_of_visible rfl]
    simpa [opensComment, flush] using ofBracketed_cases (Text.trimEnd rest)
  · intro isHeader
    cases line with
    | nil => simp [ofText_nil] at isHeader
    | cons c rest =>
        rw [ofText, isIndented, List.head?_cons, Option.any_some] at isHeader
        cases blank : Text.isBlank c with
        | true =>
            rw [blank] at isHeader
            split at isHeader
            · simp at isHeader
            · split at isHeader <;> simp at isHeader
        | false =>
            rw [blank, Text.trim_cons_of_visible blank] at isHeader
            by_cases bracket : c = '['
            · rw [bracket, List.head?_cons]
            · cases comment : opensComment c with
              | true => simp [comment] at isHeader
              | false =>
                  rcases ofUnbracketed_cases (c :: Text.trimEnd rest) with
                    malformed | ⟨key, value, entry⟩
                  · simp [comment, bracket, malformed] at isHeader
                  · simp [comment, bracket, entry] at isHeader

/-! ## What can be said in a line -/

/-- The name in a header is a name of a section. -/
theorem isSectionName_of_ofText_eq_header {line name : List Char} (unbroken : Text.IsUnbroken line)
    (read : ofText line = .header name) : IsSectionName name := by
  rcases ofText_eq_header_iff.1 read with ⟨rest, trimmed, _, bracketed⟩
  rcases ofBracketed_eq_header_iff.1 bracketed with ⟨inner, cut, rfl, occupied⟩
  rcases Text.breakFirst_eq_some_iff.1 cut with ⟨closing, rfl, _, clean⟩
  have innerUnbroken : Text.IsUnbroken inner := by
    have whole := unbroken.of_subset (Text.trim_sublist line).subset
    rw [trimmed, Text.isUnbroken_cons_iff, Text.isUnbroken_append_iff] at whole
    exact whole.2.1
  refine ⟨Text.isToken_trim innerUnbroken occupied, ?_⟩
  intro closed
  have visible := clean _ ((Text.trim_sublist inner).subset closed)
  simp at visible

/-- The key of an entry is a key, and its value holds no line break. -/
theorem isKey_of_ofText_eq_entry {line key value : List Char} (unbroken : Text.IsUnbroken line)
    (read : ofText line = .entry key value) : IsKey key ∧ Text.IsUnbroken value := by
  rcases ofText_eq_entry_iff.1 read with
    ⟨first, rest, trimmed, noComment, _, noBracket, unbracketed⟩
  rcases ofUnbracketed_eq_entry_iff.1 unbracketed with ⟨before, after, cut, occupied, rfl, rfl⟩
  rcases Text.breakFirst_eq_some_iff.1 cut with ⟨separator, split, _, clean⟩
  have unbrokenParts : Text.IsUnbroken before ∧ Text.IsUnbroken (separator :: after) := by
    rw [← Text.isUnbroken_append_iff, ← split, ← trimmed]
    exact unbroken.of_subset (Text.trim_sublist line).subset
  have valueUnbroken : Text.IsUnbroken (Text.trim after) :=
    (Text.isUnbroken_cons_iff.1 unbrokenParts.2).2.of_subset (Text.trim_sublist after).subset
  cases before with
  | nil => exact absurd rfl occupied
  | cons opening others =>
      cases split
      have visible : Text.isBlank first = false :=
        Text.visible_of_mem_head?_trim first (by rw [trimmed]; rfl)
      have begins := Text.trim_cons_of_visible visible others
      have keyOccupied : Text.trim (first :: others) ≠ [] := by
        rw [begins]
        exact List.cons_ne_nil _ _
      refine ⟨⟨Text.isToken_trim unbrokenParts.1 keyOccupied, ?_, ?_⟩, valueUnbroken⟩
      · rw [begins]
        rintro c ⟨⟩
        exact ⟨noBracket, opensComment_eq_false_iff.1 noComment⟩
      · intro c member
        exact isSeparator_eq_false_iff.1 (clean c ((Text.trim_sublist _).subset member))

/-! ## Lines that are written -/

/-- The header of a section. -/
def headerText (name : List Char) : List Char :=
  '[' :: (name ++ [']'])

/-- The line of a key and its value. -/
def entryText (key value : List Char) : List Char :=
  key ++ ' ' :: '=' :: ' ' :: value

/-- Blanks that can stand around the separator in the line of an entry. -/
structure IsGap (gap : List Char) : Prop where
  blank : ∀ c ∈ gap, Text.isBlank c = true
  unbroken : Text.IsUnbroken gap

/-- The line of a key and its value with any separator and any blanks around it. -/
def spacedEntryText (key left : List Char) (separator : Char) (right value : List Char) :
    List Char :=
  key ++ left ++ separator :: (right ++ value)

theorem isUnbroken_headerText {name : List Char} (unbroken : Text.IsUnbroken name) :
    Text.IsUnbroken (headerText name) := by
  rw [headerText, Text.isUnbroken_cons_iff, Text.isUnbroken_append_iff]
  exact ⟨rfl, unbroken, by decide⟩

theorem isUnbroken_entryText {key value : List Char} (keyUnbroken : Text.IsUnbroken key)
    (valueUnbroken : Text.IsUnbroken value) : Text.IsUnbroken (entryText key value) := by
  simp only [entryText, Text.isUnbroken_append_iff, Text.isUnbroken_cons_iff]
  exact ⟨keyUnbroken, rfl, rfl, rfl, valueUnbroken⟩

theorem isUnbroken_spacedEntryText {key left right value : List Char} {separator : Char}
    (keyUnbroken : Text.IsUnbroken key) (leftGap : IsGap left) (rightGap : IsGap right)
    (separates : isSeparator separator = true) (valueUnbroken : Text.IsUnbroken value) :
    Text.IsUnbroken (spacedEntryText key left separator right value) := by
  have noBreak : Text.isLineBreak separator = false := by
    simp only [isSeparator, Bool.or_eq_true, beq_iff_eq] at separates
    rcases separates with rfl | rfl <;> rfl
  simp only [spacedEntryText, Text.isUnbroken_append_iff, Text.isUnbroken_cons_iff]
  exact ⟨⟨keyUnbroken, leftGap.unbroken⟩, noBreak, rightGap.unbroken, valueUnbroken⟩

/-- A name of a section is read from its header. -/
theorem ofText_headerText {name : List Char} (isName : IsSectionName name) :
    ofText (headerText name) = .header name := by
  have trimmed : Text.trim (headerText name) = headerText name := by
    apply Text.isTrimmed_iff.2
    rw [headerText, ← List.cons_append, List.getLast?_concat]
    constructor
    · rintro _ ⟨⟩
      rfl
    · rintro _ ⟨⟩
      rfl
  have cut : Text.breakFirst (· == ']') (name ++ [']']) = some (name, []) := by
    apply Text.breakFirst_eq_some_iff.2
    refine ⟨']', rfl, rfl, ?_⟩
    intro c member
    rw [beq_eq_false_iff_ne]
    rintro rfl
    exact isName.unclosed member
  apply ofText_eq_header_iff.2
  refine ⟨name ++ [']'], trimmed, rfl, ?_⟩
  exact ofBracketed_eq_header_iff.2 ⟨name, cut, isName.trimmed, isName.occupied⟩

/-- A separator and the blanks around it part a key and a value, and those behind it go with an
empty value. -/
theorem trim_spacedEntryText {key left right value : List Char} {separator : Char}
    (isKey : IsKey key) (rightGap : IsGap right) (separates : isSeparator separator = true)
    (trimmed : Text.IsTrimmed value) :
    ∃ after, Text.trim (spacedEntryText key left separator right value) =
        key ++ left ++ separator :: after ∧ Text.trim after = value := by
  have visible : Text.isBlank separator = false := by
    simp only [isSeparator, Bool.or_eq_true, beq_iff_eq] at separates
    rcases separates with rfl | rfl <;> rfl
  have keyBefore : ∀ rest : List Char, rest ≠ [] → Text.IsTrimmed rest →
      Text.trim (key ++ left ++ rest) = key ++ left ++ rest := by
    intro rest occupied restTrimmed
    exact isKey.trimmed.append restTrimmed isKey.occupied occupied left
  by_cases empty : value = []
  · subst empty
    refine ⟨[], ?_, rfl⟩
    have split : spacedEntryText key left separator right [] =
        key ++ left ++ [separator] ++ right := by simp [spacedEntryText]
    have signTrimmed : Text.IsTrimmed [separator] := by simp [Text.isTrimmed_iff, visible]
    rw [split, Text.trim_append_blanks rightGap.blank, keyBefore _ (by simp) signTrimmed]
  · refine ⟨right ++ value, ?_, ?_⟩
    · have split : spacedEntryText key left separator right value =
          key ++ (left ++ separator :: right) ++ value := by simp [spacedEntryText]
      rw [split, isKey.trimmed.append trimmed isKey.occupied empty]
      simp
    · rw [Text.trim_blanks_append rightGap.blank]
      exact trimmed

/-- A key and a value are read from their line, whatever blanks are around the separator. -/
theorem ofText_spacedEntryText {key left right value : List Char} {separator : Char}
    (isKey : IsKey key) (leftGap : IsGap left) (rightGap : IsGap right)
    (separates : isSeparator separator = true) (trimmed : Text.IsTrimmed value) :
    ofText (spacedEntryText key left separator right value) = .entry key value := by
  rcases trim_spacedEntryText isKey rightGap separates trimmed with ⟨after, written, trimmedAfter⟩
  have trimmedKey : Text.trim (key ++ left) = key := by
    rw [Text.trim_append_blanks leftGap.blank]
    exact isKey.trimmed
  have cut : Text.breakFirst isSeparator (key ++ left ++ separator :: after) =
      some (key ++ left, after) := by
    apply Text.breakFirst_eq_some_iff.2
    refine ⟨separator, rfl, separates, ?_⟩
    intro c member
    rcases List.mem_append.1 member with inKey | inGap
    · exact isSeparator_eq_false_iff.2 (isKey.unseparated c inKey)
    · have blank := leftGap.blank c inGap
      apply isSeparator_eq_false_iff.2
      constructor
      · rintro rfl
        cases blank
      · rintro rfl
        cases blank
  cases key with
  | nil => exact absurd rfl isKey.occupied
  | cons first others =>
      rcases isKey.opens first rfl with ⟨noBracket, noComment⟩
      have visible : Text.isBlank first = false := (Text.isTrimmed_iff.1 isKey.trimmed).1 first rfl
      apply ofText_eq_entry_iff.2
      refine ⟨first, others ++ left ++ separator :: after, written,
        opensComment_eq_false_iff.2 noComment, visible, noBracket, ?_⟩
      exact ofUnbracketed_eq_entry_iff.2 ⟨_, after, cut, by simp, trimmedKey, trimmedAfter⟩

/-- A key and a value are read from their line. -/
theorem ofText_entryText {key value : List Char} (isKey : IsKey key)
    (trimmed : Text.IsTrimmed value) : ofText (entryText key value) = .entry key value := by
  have isGap : IsGap [' '] := ⟨List.forall_mem_singleton.2 rfl, by decide⟩
  have spaced : entryText key value = spacedEntryText key [' '] '=' [' '] value := by
    simp [entryText, spacedEntryText]
  rw [spaced]
  exact ofText_spacedEntryText isKey isGap isGap rfl trimmed

end Line

end PathPolicy.PolicyText
