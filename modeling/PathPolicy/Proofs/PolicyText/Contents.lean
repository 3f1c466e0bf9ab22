import PathPolicy.Proofs.PolicyText.LineKinds
import PathPolicy.Proofs.PolicyText.Names
import PathPolicy.Proofs.PolicyText.Runs

/-!
# Contents of raw sections

All that the raw sections hold comes from the lines: the names from the headers, the keys from the
entries, and the values from the entries and their continuations.  So what holds of the names, keys
and values in the lines, and is kept when a value is continued, holds of all that is read.  While
lines are read the section that is open is there, and a continuation finds the value that it
extends.
-/

namespace PathPolicy.PolicyText

namespace Reading

/-- The section that is open is there, and in it the key that is open has a value. -/
structure IsAnchored (reading : Reading) : Prop where
  current : ∀ name ∈ reading.current, ∃ raw, reading.sections.get? name = some raw
  openKey : ∀ key ∈ reading.openKey, ∃ name ∈ reading.current, ∃ raw value,
    reading.sections.get? name = some raw ∧ raw.get? key = some value

/-- The value of the key that is open is found in the section that is open. -/
theorem IsAnchored.exists_get? {reading : Reading} (anchored : reading.IsAnchored)
    {name key : String} (isCurrent : reading.current = some name)
    (isOpen : reading.openKey = some key) :
    ∃ value, (reading.sections.entries name).get? key = some value := by
  rcases anchored.openKey key isOpen with ⟨other, isOther, raw, value, found, foundValue⟩
  obtain rfl : other = name := Option.some.inj (isOther.symm.trans isCurrent)
  exact ⟨value, by rw [RawSections.entries, found, Option.getD_some, foundValue]⟩

theorem isAnchored_start : start.IsAnchored :=
  ⟨by simp [start], by simp [start]⟩

theorem isAnchored_putEntry (sections : RawSections) (name key value : String) :
    IsAnchored ⟨sections.putEntry name key value, some name, some key⟩ := by
  have present : (sections.putEntry name key value).get? name =
      some ((sections.entries name).put key value) := Table.get?_put_self _ _ _
  constructor
  · rintro _ ⟨⟩
    exact ⟨_, present⟩
  · rintro _ ⟨⟩
    exact ⟨name, rfl, _, value, present, Table.get?_put_self _ _ _⟩

/-- A step keeps a reading anchored, whatever the line is. -/
theorem step_isAnchored (reading : Reading) (line : Line) (anchored : reading.IsAnchored) :
    (reading.step line).1.IsAnchored := by
  cases line with
  | blank => exact ⟨anchored.current, by simp [step]⟩
  | comment => exact anchored
  | continuation text =>
      simp only [step]
      split
      · exact isAnchored_putEntry _ _ _ _
      · exact anchored
  | header name =>
      refine ⟨?_, by simp [step]⟩
      rintro _ ⟨⟩
      exact ⟨_, Table.get?_put_self _ _ _⟩
  | brokenHeader => exact ⟨by simp [step], by simp [step]⟩
  | malformed text => exact ⟨anchored.current, by simp [step]⟩
  | entry key value =>
      simp only [step]
      split
      · exact isAnchored_putEntry _ _ _ _
      · exact ⟨by simp, by simp⟩

end Reading

theorem readingOf_keeps (Keeps : Reading → Prop)
    (step : ∀ reading line, Keeps reading → Keeps (reading.step line).1)
    (start : Keeps Reading.start) (lines : List (List Char)) : Keeps (readingOf lines) := by
  rw [readingOf, ← Reading.run_fst Reading.start 1]
  exact Reading.run_keeps Keeps step start 1 _

theorem readingOf_isAnchored (lines : List (List Char)) : (readingOf lines).IsAnchored :=
  readingOf_keeps Reading.IsAnchored Reading.step_isAnchored Reading.isAnchored_start lines

/-! ## What holds of all that is read -/

variable {ofName : String → Prop} {ofEntry : String → String → Prop}

/-- Something holds of the name of every section and of every key with its value. -/
def RawSections.Holds (ofName : String → Prop) (ofEntry : String → String → Prop)
    (sections : RawSections) : Prop :=
  ∀ part ∈ sections, ofName part.1 ∧ ∀ pair ∈ part.2, ofEntry pair.1 pair.2

/-- What holds of all that is read still holds behind a line: of its name, of its key and value, or
of every value that it continues. -/
def Line.Keeps (ofName : String → Prop) (ofEntry : String → String → Prop) : Line → Prop
  | .header name => ofName (String.ofList name)
  | .entry key value => ofEntry (String.ofList key) (String.ofList value)
  | .continuation text => ∀ key value, ofEntry key value →
      ofEntry key (RawSections.joinValue value (String.ofList text))
  | _ => True

namespace RawSections.Holds

variable {sections : RawSections}

theorem name_of_get? (holds : sections.Holds ofName ofEntry) {name : String}
    {raw : Table String String} (found : sections.get? name = some raw) : ofName name :=
  (holds _ (Table.mem_of_get?_eq_some found)).1

/-- It holds of the entries of a section, also of one that is not there. -/
theorem entries (holds : sections.Holds ofName ofEntry) (name : String) :
    ∀ pair ∈ sections.entries name, ofEntry pair.1 pair.2 := by
  rw [RawSections.entries]
  cases found : sections.get? name with
  | none => simp
  | some raw => exact (holds _ (Table.mem_of_get?_eq_some found)).2

theorem put (holds : sections.Holds ofName ofEntry) {name : String} (ofThisName : ofName name)
    {raw : Table String String} (ofItsEntries : ∀ pair ∈ raw, ofEntry pair.1 pair.2) :
    Holds ofName ofEntry (Table.put name raw sections) := by
  intro part member
  rcases Table.eq_or_mem_of_mem_put member with rfl | old
  · exact ⟨ofThisName, ofItsEntries⟩
  · exact holds part old

theorem openSection (holds : sections.Holds ofName ofEntry) {name : String}
    (ofThisName : ofName name) : (sections.openSection name).Holds ofName ofEntry :=
  holds.put ofThisName (holds.entries name)

theorem putEntry (holds : sections.Holds ofName ofEntry) {name key value : String}
    (ofThisName : ofName name) (ofThisEntry : ofEntry key value) :
    (sections.putEntry name key value).Holds ofName ofEntry := by
  apply holds.put ofThisName
  intro pair member
  rcases Table.eq_or_mem_of_mem_put member with rfl | old
  · exact ofThisEntry
  · exact holds.entries name pair old

end RawSections.Holds

/-- A step over a line keeps what holds of all that is read, if the line does. -/
theorem Reading.step_holds {reading : Reading} (anchored : reading.IsAnchored)
    (holds : reading.sections.Holds ofName ofEntry) {line : Line}
    (keeps : line.Keeps ofName ofEntry) :
    (reading.step line).1.sections.Holds ofName ofEntry := by
  cases line with
  | continuation text =>
      simp only [step]
      split
      · rename_i name key isCurrent isOpen
        rcases anchored.openKey key isOpen with ⟨other, isOther, raw, value, found, foundValue⟩
        obtain rfl : other = name := Option.some.inj (isOther.symm.trans isCurrent)
        have ofOld : ofEntry key value :=
          holds.entries other _ (by
            rw [RawSections.entries, found]
            exact Table.mem_of_get?_eq_some foundValue)
        rw [RawSections.extendEntry, RawSections.entries, found, Option.getD_some, foundValue]
        exact holds.putEntry (holds.name_of_get? found) (keeps key value ofOld)
      · exact holds
  | header name => exact holds.openSection keeps
  | entry key value =>
      simp only [step]
      split
      · rename_i name isCurrent
        rcases anchored.current name isCurrent with ⟨raw, found⟩
        exact holds.putEntry (holds.name_of_get? found) keeps
      · exact holds
  | _ => exact holds

theorem readSections_holds {text : String}
    (keeps : ∀ line ∈ linesOf text, line.Keeps ofName ofEntry) :
    (readSections text).1.Holds ofName ofEntry := by
  have step : ∀ reading : Reading, ∀ line ∈ linesOf text,
      reading.IsAnchored ∧ reading.sections.Holds ofName ofEntry →
        (reading.step line).1.IsAnchored ∧ (reading.step line).1.sections.Holds ofName ofEntry := by
    rintro reading line member ⟨anchored, holds⟩
    exact ⟨reading.step_isAnchored line anchored,
      Reading.step_holds anchored holds (keeps line member)⟩
  have start : Reading.start.IsAnchored ∧ Reading.start.sections.Holds ofName ofEntry :=
    ⟨Reading.isAnchored_start, by simp [Reading.start, RawSections.Holds]⟩
  exact (Reading.run_keeps_on _ step start 1).2

/-! ## What a text holds -/

theorem isUnbroken_joinValue {value continuation : String}
    (valueUnbroken : Text.IsUnbroken value.toList)
    (continuationUnbroken : Text.IsUnbroken continuation.toList) :
    Text.IsUnbroken (RawSections.joinValue value continuation).toList := by
  have whole : Text.IsUnbroken (value ++ " " ++ continuation).toList := by
    rw [String.toList_append, String.toList_append, Text.isUnbroken_append_iff,
      Text.isUnbroken_append_iff]
    exact ⟨⟨valueUnbroken, by decide⟩, continuationUnbroken⟩
  rw [RawSections.joinValue, Text.trimmed, String.toList_ofList]
  exact whole.of_subset (Text.trim_sublist _).subset

/-- What a line keeps, whatever the line is, as long as it holds no line break. -/
theorem Line.keeps_ofText {line : List Char} (unbroken : Text.IsUnbroken line) :
    (ofText line).Keeps (fun name => IsSectionName name.toList)
      (fun key value => IsKey key.toList ∧ Text.IsUnbroken value.toList) := by
  cases read : ofText line with
  | header name =>
      rw [Keeps, String.toList_ofList]
      exact isSectionName_of_ofText_eq_header unbroken read
  | entry key value =>
      rw [Keeps, String.toList_ofList, String.toList_ofList]
      exact isKey_of_ofText_eq_entry unbroken read
  | continuation text =>
      have textUnbroken : Text.IsUnbroken (String.ofList text).toList := by
        rw [String.toList_ofList, ← (ofText_eq_continuation_iff.1 read).2.1]
        exact unbroken.of_subset (Text.trim_sublist line).subset
      rintro key value ⟨isKey, valueUnbroken⟩
      exact ⟨isKey, isUnbroken_joinValue valueUnbroken textUnbroken⟩
  | _ => trivial

/-- Sections have names that a header can give, keys are keys of entries, and no value holds a line
break. -/
theorem readSections_contents (text : String) :
    (readSections text).1.Holds (fun name => IsSectionName name.toList)
      (fun key value => IsKey key.toList ∧ Text.IsUnbroken value.toList) := by
  apply readSections_holds
  intro line member
  rcases List.mem_map.1 member with ⟨characters, isLine, rfl⟩
  exact Line.keeps_ofText (Text.isUnbroken_of_mem_splitLinesAfter isLine)

end PathPolicy.PolicyText
