import PathPolicy.Proofs.FirstFault
import PathPolicy.Snapshot

/-!
# Faults of snapshot data

Which data are no snapshot for a reason that no caller expects: the members of a group cannot
be listed, or data are nested so deep that no text can be made of a member or of permissions.
The first fault in the order of reading is the one that is reported, so whatever comes before
has to be sound.
-/

namespace PathPolicy

namespace Scalar

theorem plainText_ne_tooDeep (datum : Scalar) : datum.plainText ≠ .error .tooDeep := by
  rw [plainText.eq_def]
  cases datum <;> dsimp only
  case integer number => split <;> simp
  all_goals simp

end Scalar

namespace Snapshot

/-- Data that hold no members: a scalar that is not void and neither a text nor bytes, or
a label that stands for a label. -/
inductive IsUnlistable : Value → Prop
  | scalar (datum : Scalar) (occupied : datum.isVoid = false)
      (noText : ∀ content, datum ≠ .text content) (noBytes : ∀ content, datum ≠ .bytes content) :
      IsUnlistable (.scalar datum)
  | shared (label : Nat) : IsUnlistable (.shared label)

/-- The texts of the members that data hold, as far as they have one; a text lists its members
between commas. -/
def itemTexts (data : Data) : Value → List (Except TextFault String)
  | .scalar (.text listed) =>
      (Text.splitAt ',' listed.toList).map fun piece => .ok (String.ofList piece)
  | .scalar (.bytes content) => content.map fun byte => .ok (toString byte.toNat)
  | .list items => items.map data.text
  | .pair first second => [data.text first, data.text second]
  | .set members => members.map Scalar.plainText
  | .map entries => entries.map fun entry => entry.1.plainText
  | _ => []

/-- Data have a text. -/
def HasText (text : Except TextFault String) : Prop :=
  ∃ written, text = .ok written

/-- The members that data hold end the reading: they cannot be listed, or one of them is nested
too deep and all before it have a text. -/
def HasUnreadableMembers (data : Data) (value : Value) : Prop :=
  IsUnlistable (data.content value) ∨
    FirstFails HasText (· = .error .tooDeep) (itemTexts data (data.content value))

/-- A group can be read when its name and all its members have a text. -/
def IsReadableGroup (data : Data) (definition : Scalar × Value) : Prop :=
  HasText definition.1.plainText ∧ ¬ IsUnlistable (data.content definition.2) ∧
    ∀ text ∈ itemTexts data (data.content definition.2), HasText text

/-- The members of a group end the reading, and all groups before it can be read. -/
def HasUnreadableGroup (data : Data) (definitions : List (Scalar × Value)) : Prop :=
  FirstFails (IsReadableGroup data)
    (fun definition =>
      HasText definition.1.plainText ∧ HasUnreadableMembers data definition.2)
    definitions

/-- An entry is passed by when it is read, or when it is left out of a section that has a
name. -/
def IsPassed (data : Data) (sectionName : Scalar) (entry : Scalar × Value) : Prop :=
  ∃ token result, entry.1.plainText = .ok token ∧ readEntry data token entry.2 = .ok result ∧
    ((∃ read, result = .ok read) ∨ HasText sectionName.plainText)

/-- The permissions of an entry are nested too deep. -/
def IsTooDeep (data : Data) (entry : Scalar × Value) : Prop :=
  HasText entry.1.plainText ∧ permissionsOf data entry.2 = .error .tooDeep

/-- The permissions of an entry are nested too deep, and all entries before are passed by. -/
def HasDeepEntry (data : Data) (part : Scalar × Value) : Prop :=
  ∃ raw, entriesOf data (some part.2) = .ok raw ∧
    FirstFails (IsPassed data part.1) (IsTooDeep data) raw

/-- A section can be read when it has a name and all its entries are passed by. -/
def IsReadableSection (data : Data) (part : Scalar × Value) : Prop :=
  HasText part.1.plainText ∧
    ∃ raw, entriesOf data (some part.2) = .ok raw ∧ ∀ entry ∈ raw, IsPassed data part.1 entry

/-- The groups of a snapshot end the reading: one of them has members that cannot be listed, or
that are nested too deep. -/
def HasUnreadableGroups (data : Data) : Prop :=
  ∃ fields definitions, data.content data.root = .map fields ∧
    entriesOf data (Value.entry? fields groupsKey) = .ok definitions ∧
    HasUnreadableGroup data definitions

/-- The sections of a snapshot end the reading: all groups can be read, and one of the sections
has permissions that are nested too deep. -/
def HasDeepPermissions (data : Data) : Prop :=
  ∃ fields definitions sections, data.content data.root = .map fields ∧
    entriesOf data (Value.entry? fields groupsKey) = .ok definitions ∧
    (∀ definition ∈ definitions, IsReadableGroup data definition) ∧
    entriesOf data (Value.entry? fields sectionsKey) = .ok sections ∧
    FirstFails (IsReadableSection data) (HasDeepEntry data) sections

/-! ## Texts that must be there -/

theorem required_eq_ok_iff {text : Except TextFault String} {written : String} :
    required text = .ok written ↔ text = .ok written :=
  mapError_eq_ok_iff

theorem required_eq_error_iff {text : Except TextFault String} {fault : Fault} :
    required text = .error fault ↔ ∃ missing, text = .error missing ∧ .noText missing = fault :=
  mapError_eq_error_iff

theorem isExpected_of_required_plainText {datum : Scalar} {fault : Fault}
    (failed : required datum.plainText = .error fault) : fault.isExpected = true := by
  obtain ⟨missing, noText, rfl⟩ := required_eq_error_iff.1 failed
  cases missing with
  | tooManyDigits => rfl
  | tooDeep => exact absurd noText datum.plainText_ne_tooDeep

theorem exists_mapM_required_iff {texts : List (Except TextFault String)} :
    (∃ results, texts.mapM required = .ok results) ↔ ∀ text ∈ texts, HasText text := by
  simp only [exists_mapM_eq_ok_iff, required_eq_ok_iff, HasText]

theorem required_unexpected_iff {text : Except TextFault String} :
    (∃ fault, required text = .error fault ∧ fault.isExpected = false) ↔
      text = .error .tooDeep := by
  rcases text with (_ | _) | written <;> simp [required, Except.mapError, Fault.isExpected]

theorem mapM_required_unexpected_iff {texts : List (Except TextFault String)} :
    (∃ fault, texts.mapM required = .error fault ∧ fault.isExpected = false) ↔
      FirstFails HasText (· = .error .tooDeep) texts := by
  simp only [exists_mapM_eq_error_iff, required_unexpected_iff, required_eq_ok_iff]
  rfl

/-! ## Members and groups -/

/-- A scalar that can be listed is a text, bytes or void. -/
theorem not_isUnlistable_scalar_iff {datum : Scalar} :
    ¬ IsUnlistable (.scalar datum) ↔ (∃ content, datum = .text content) ∨
      (∃ content, datum = .bytes content) ∨ datum.isVoid = true := by
  constructor
  · intro listable
    by_contra others
    rw [not_or, not_or, not_exists, not_exists, Bool.not_eq_true] at others
    obtain ⟨noText, noBytes, occupied⟩ := others
    exact listable (.scalar datum occupied noText noBytes)
  · rintro listable unlistable
    cases unlistable with
    | scalar _ occupied noText noBytes =>
        rcases listable with ⟨content, isText⟩ | ⟨content, isBytes⟩ | void
        · exact noText content isText
        · exact noBytes content isBytes
        · rw [occupied] at void
          cases void

theorem readMembers_of_unlistable {data : Data} {value : Value}
    (unlistable : IsUnlistable (data.content value)) :
    readMembers data value = .error (.notIterable (data.content value).kindName) := by
  rw [readMembers]
  generalize data.content value = content at unlistable ⊢
  cases unlistable with
  | scalar datum occupied noText noBytes =>
      cases datum with
      | text content => exact absurd rfl (noText content)
      | bytes content => exact absurd rfl (noBytes content)
      | _ => simp [occupied, Value.kindName]
  | shared label => rfl

theorem mapM_required_map_ok {α : Type} (items : List α) (text : α → String) :
    (items.map fun item => .ok (text item)).mapM required = .ok (items.map text) := by
  rw [mapM_eq_ok_iff, List.forall₂_map_left_iff, List.forall₂_map_right_iff, List.forall₂_same]
  intro item _
  rfl

theorem membersOf_splitAt (listed : String) :
    membersOf ((Text.splitAt ',' listed.toList).map String.ofList) =
      .ofCommaSeparated listed := by
  rw [membersOf, MemberSet.ofCommaSeparated, List.filterMap_map, List.filterMap_map]
  simp

/-- What can be listed is read item by item. -/
theorem readMembers_of_listable {data : Data} {value : Value}
    (listable : ¬ IsUnlistable (data.content value)) :
    readMembers data value =
      ((itemTexts data (data.content value)).mapM required).map membersOf := by
  rw [readMembers]
  generalize data.content value = content at listable ⊢
  cases content with
  | scalar datum =>
      have holds := not_isUnlistable_scalar_iff.1 listable
      cases datum with
      | text listed =>
          simp only [itemTexts]
          rw [mapM_required_map_ok, ← membersOf_splitAt]
          rfl
      | bytes bytes =>
          simp only [itemTexts]
          rw [mapM_required_map_ok]
          rfl
      | _ =>
          simp only [reduceCtorEq, exists_false, false_or] at holds
          exact if_pos holds
  | list items => simp [itemTexts, List.mapM_map, Function.comp_def]
  | pair first second => rfl
  | set members => simp [itemTexts, List.mapM_map, Function.comp_def]
  | map entries => simp [itemTexts, List.mapM_map, Function.comp_def]
  | shared label => exact absurd (.shared label) listable

/-- Members are read when they can be listed and each of them has a text. -/
theorem exists_readMembers_iff {data : Data} {value : Value} :
    (∃ members, readMembers data value = .ok members) ↔
      ¬ IsUnlistable (data.content value) ∧
        ∀ text ∈ itemTexts data (data.content value), HasText text := by
  by_cases unlistable : IsUnlistable (data.content value)
  · simp [readMembers_of_unlistable unlistable, unlistable]
  · rw [readMembers_of_listable unlistable, ← exists_mapM_required_iff]
    simp [map_eq_ok_iff, unlistable]

/-- Members end the reading unexpectedly exactly when they cannot be listed or one of them is
nested too deep. -/
theorem readMembers_unexpected_iff {data : Data} {value : Value} :
    (∃ fault, readMembers data value = .error fault ∧ fault.isExpected = false) ↔
      HasUnreadableMembers data value := by
  by_cases unlistable : IsUnlistable (data.content value)
  · simp [readMembers_of_unlistable unlistable, HasUnreadableMembers, unlistable,
      Fault.isExpected]
  · simp [readMembers_of_listable unlistable, HasUnreadableMembers, unlistable,
      map_eq_error_iff, mapM_required_unexpected_iff]

theorem exists_readGroup_iff {data : Data} {definition : Scalar × Value} :
    (∃ group, readGroup data definition = .ok group) ↔ IsReadableGroup data definition := by
  rw [IsReadableGroup, ← exists_readMembers_iff]
  constructor
  · rintro ⟨group, read⟩
    obtain ⟨name, named, read⟩ := bind_eq_ok_iff.1 read
    obtain ⟨members, readMembers, _⟩ := bind_eq_ok_iff.1 read
    exact ⟨⟨name, required_eq_ok_iff.1 named⟩, members, readMembers⟩
  · rintro ⟨⟨name, named⟩, members, readMembers⟩
    exact ⟨⟨name, members⟩, bind_eq_ok_iff.2 ⟨name, required_eq_ok_iff.2 named,
      bind_eq_ok_iff.2 ⟨members, readMembers, rfl⟩⟩⟩

theorem readGroup_unexpected_iff {data : Data} {definition : Scalar × Value} :
    (∃ fault, readGroup data definition = .error fault ∧ fault.isExpected = false) ↔
      HasText definition.1.plainText ∧ HasUnreadableMembers data definition.2 := by
  simp only [readGroup, exists_bind_eq_error_iff, readMembers_unexpected_iff, required_unexpected_iff,
    required_eq_ok_iff, definition.1.plainText_ne_tooDeep, pure, Except.pure, reduceCtorEq, false_and,
    exists_false, and_false, or_false, false_or, HasText, exists_and_right]

theorem exists_readGroups_iff {data : Data} {definitions : List (Scalar × Value)} :
    (∃ groups, readGroups data definitions = .ok groups) ↔
      ∀ definition ∈ definitions, IsReadableGroup data definition := by
  simp only [readGroups, exists_mapM_eq_ok_iff, exists_readGroup_iff]

/-- The groups of a snapshot end the reading unexpectedly exactly when the members of one do
and everything before is sound. -/
theorem readGroups_unexpected_iff {data : Data} {definitions : List (Scalar × Value)} :
    (∃ fault, readGroups data definitions = .error fault ∧ fault.isExpected = false) ↔
      HasUnreadableGroup data definitions := by
  simp only [readGroups, exists_mapM_eq_error_iff, exists_readGroup_iff,
    readGroup_unexpected_iff, HasUnreadableGroup]

/-! ## Sections -/

/-- Only data that are no map are reported where entries are expected. -/
theorem isExpected_of_entriesOf {data : Data} {value? : Option Value} {fault : Fault}
    (failed : entriesOf data value? = .error fault) : fault.isExpected = true := by
  cases value? with
  | none => cases failed
  | some value =>
      simp only [entriesOf] at failed
      split at failed
      · cases failed
      · split at failed
        · cases failed
        · cases failed
          rfl

theorem readEntry_eq_error_iff {data : Data} {token : String} {permissions : Value}
    {fault : Fault} :
    readEntry data token permissions = .error fault ↔
      permissionsOf data permissions = .error .tooDeep ∧ fault = .noText .tooDeep := by
  rw [readEntry]
  split
  · rename_i tooDeep
    simp [tooDeep, eq_comm]
  · rename_i tooManyDigits
    simp [tooManyDigits]
  · rename_i read
    simp [read]

theorem not_isTooDeep_of_readEntry {data : Data} {token : String} {entry : Scalar × Value}
    {result : Except EntryFault Entry} (read : readEntry data token entry.2 = .ok result) :
    ¬ IsTooDeep data entry := by
  rintro ⟨_, tooDeep⟩
  rw [readEntry_eq_error_iff.2 ⟨tooDeep, rfl⟩] at read
  cases read

/-- An entry is passed by and the others are read, or the reading ends with a fault that is only
unexpected if the permissions of the entry are nested too deep. -/
theorem readEntries_step (data : Data) (sectionName : Scalar) (entry : Scalar × Value)
    (rest : List (Scalar × Value)) :
    (IsPassed data sectionName entry ∧ ¬ IsTooDeep data entry ∧ ∃ put,
      (readEntries data sectionName (entry :: rest)).value =
        (readEntries data sectionName rest).value.map put) ∨
    (¬ IsPassed data sectionName entry ∧ ∃ fault,
      (readEntries data sectionName (entry :: rest)).value = .error fault ∧
      (fault.isExpected = false ↔ IsTooDeep data entry)) := by
  obtain ⟨token, permissions⟩ := entry
  rw [readEntries]
  split
  · rename_i fault unnamed
    obtain ⟨missing, noText, _⟩ := required_eq_error_iff.1 unnamed
    refine Or.inr ⟨by simp [IsPassed, noText], fault, rfl, ?_⟩
    simp [isExpected_of_required_plainText unnamed, IsTooDeep, HasText, noText]
  · rename_i name named
    rw [required_eq_ok_iff] at named
    split
    · rename_i fault _ failed
      obtain ⟨tooDeep, rfl⟩ := readEntry_eq_error_iff.1 failed
      refine Or.inr ⟨by simp [IsPassed, named, failed], _, rfl, ?_⟩
      simp [Fault.isExpected, IsTooDeep, HasText, named, tooDeep]
    · rename_i first read
      exact Or.inl ⟨by simp [IsPassed, named, read], not_isTooDeep_of_readEntry read,
        (first :: ·), rfl⟩
    · rename_i missing left unnamed
      obtain ⟨_, noText, _⟩ := required_eq_error_iff.1 unnamed
      refine Or.inr ⟨by simp [IsPassed, named, left, HasText, noText], missing, rfl, ?_⟩
      simp only [isExpected_of_required_plainText unnamed, Bool.true_eq_false, false_iff]
      exact not_isTooDeep_of_readEntry left
    · rename_i left placed
      rw [required_eq_ok_iff] at placed
      refine Or.inl ⟨by simp [IsPassed, named, left, HasText, placed],
        not_isTooDeep_of_readEntry left, id, ?_⟩
      rw [Except.map_id]
      rfl

theorem exists_readEntries_iff {data : Data} {sectionName : Scalar}
    {raw : List (Scalar × Value)} :
    (∃ entries, (readEntries data sectionName raw).value = .ok entries) ↔
      ∀ entry ∈ raw, IsPassed data sectionName entry := by
  induction raw with
  | nil => simp [readEntries]
  | cons entry rest inductionHypothesis =>
      rw [List.forall_mem_cons, ← inductionHypothesis]
      rcases readEntries_step data sectionName entry rest with
        ⟨passed, _, put, step⟩ | ⟨stopped, fault, step, _⟩
      · simp [step, passed, map_eq_ok_iff]
      · simp [step, stopped]

/-- The entries of a section end the reading unexpectedly exactly when the permissions of one are
nested too deep and all before are passed by. -/
theorem readEntries_unexpected_iff {data : Data} {sectionName : Scalar}
    {raw : List (Scalar × Value)} :
    (∃ fault, (readEntries data sectionName raw).value = .error fault ∧
        fault.isExpected = false) ↔
      FirstFails (IsPassed data sectionName) (IsTooDeep data) raw := by
  induction raw with
  | nil => simp [readEntries]
  | cons entry rest inductionHypothesis =>
      rw [firstFails_cons_iff, ← inductionHypothesis]
      rcases readEntries_step data sectionName entry rest with
        ⟨passed, readable, put, step⟩ | ⟨stopped, fault, step, unexpected⟩
      · simp [step, passed, readable, map_eq_error_iff]
      · simp [step, stopped, unexpected]

/-- A section is read when it has a name and its entries are passed by. -/
theorem exists_readSection_iff {data : Data} {part : Scalar × Value} :
    (∃ result, (readSection data part.1 part.2).value = .ok result) ↔
      IsReadableSection data part := by
  rw [readSection, IsReadableSection]
  split
  · rename_i noEntries
    simp [noEntries]
  · rename_i raw found
    simp only [found, Except.ok.injEq, exists_eq_left', ← exists_readEntries_iff,
      Traced.value_bind]
    split
    · rename_i unread
      simp [unread]
    · rename_i entries read
      simp [read, map_eq_ok_iff, required_eq_ok_iff, HasText]

/-- A section ends the reading unexpectedly exactly when permissions of it are nested too
deep. -/
theorem readSection_unexpected_iff {data : Data} {part : Scalar × Value} :
    (∃ fault, (readSection data part.1 part.2).value = .error fault ∧
        fault.isExpected = false) ↔ HasDeepEntry data part := by
  rw [readSection, HasDeepEntry]
  split
  · rename_i noEntries
    simp [noEntries, isExpected_of_entriesOf noEntries]
  · rename_i raw found
    simp only [found, Except.ok.injEq, exists_eq_left', ← readEntries_unexpected_iff,
      Traced.value_bind]
    split
    · rename_i unread
      simp [unread]
    · rename_i entries read
      simp only [read, Traced.value_pure, map_eq_error_iff, reduceCtorEq, false_and, exists_false,
        iff_false]
      rintro ⟨fault, unnamed, unexpected⟩
      rw [isExpected_of_required_plainText unnamed] at unexpected
      cases unexpected

theorem value_readSections (data : Data) (raw : List (Scalar × Value)) :
    (readSections data raw).value =
      raw.mapM fun part => (readSection data part.1 part.2).value := by
  induction raw with
  | nil => rfl
  | cons part rest inductionHypothesis =>
      rw [readSections, List.mapM_cons, ← inductionHypothesis, Traced.value_bind]
      cases (readSection data part.1 part.2).value with
      | error fault => rfl
      | ok first =>
          rw [Traced.value_bind, Traced.value_pure]
          cases (readSections data rest).value <;> rfl

/-- Sections end the reading unexpectedly exactly when one of them does and all before are
read. -/
theorem readSections_unexpected_iff {data : Data} {raw : List (Scalar × Value)} :
    (∃ fault, (readSections data raw).value = .error fault ∧ fault.isExpected = false) ↔
      FirstFails (IsReadableSection data) (HasDeepEntry data) raw := by
  simp only [value_readSections, exists_mapM_eq_error_iff, exists_readSection_iff,
    readSection_unexpected_iff]

/-! ## Documents -/

theorem not_unexpected_of_entriesOf {data : Data} {value? : Option Value} :
    ¬ ∃ fault, entriesOf data value? = .error fault ∧ fault.isExpected = false := by
  rintro ⟨fault, failed, unexpected⟩
  rw [isExpected_of_entriesOf failed] at unexpected
  cases unexpected

theorem not_unexpected_of_ofParts {sections : List Section} {groups : List Group} :
    ¬ ∃ fault, (Document.ofParts sections groups).mapError Fault.document = .error fault ∧
      fault.isExpected = false := by
  rintro ⟨fault, failed, unexpected⟩
  obtain ⟨_, _, rfl⟩ := mapError_eq_error_iff.1 failed
  cases unexpected

/-- The parts of a map are read one after the other and then put together. -/
theorem value_ofData_of_map {data : Data} {fields : List (Scalar × Value)}
    (isMap : data.content data.root = .map fields) :
    (Document.ofData data).value = (do
      let definitions ← entriesOf data (Value.entry? fields groupsKey)
      let groups ← readGroups data definitions
      let raw ← entriesOf data (Value.entry? fields sectionsKey)
      let sections ← (readSections data raw).value
      (Document.ofParts sections groups).mapError .document) := by
  rw [Document.ofData, isMap]
  dsimp only
  cases entriesOf data (Value.entry? fields groupsKey) with
  | error fault => rfl
  | ok definitions =>
      simp only [bind, Except.bind]
      cases readGroups data definitions with
      | error fault => rfl
      | ok groups =>
          dsimp only
          cases entriesOf data (Value.entry? fields sectionsKey) with
          | error fault => rfl
          | ok raw =>
              dsimp only
              change (readSections data raw >>= _).value = _
              rw [Traced.value_bind]
              cases (readSections data raw).value <;> rfl

/-- A document is refused for a reason that no caller expects exactly when the members of a group
end the reading, or all groups are read and permissions end it. -/
theorem ofData_unexpected_iff {data : Data} :
    (∃ fault, (Document.ofData data).value = .error fault ∧ fault.isExpected = false) ↔
      HasUnreadableGroups data ∨ HasDeepPermissions data := by
  by_cases isMap : ∃ fields, data.content data.root = .map fields
  · obtain ⟨fields, isMap⟩ := isMap
    simp only [value_ofData_of_map isMap, exists_bind_eq_error_iff, not_unexpected_of_entriesOf,
      readGroups_unexpected_iff, readSections_unexpected_iff, not_unexpected_of_ofParts,
      HasUnreadableGroups, HasDeepPermissions, ← exists_readGroups_iff, isMap]
    grind
  · have noFields : (Document.ofData data).value =
        .error (.noFields (data.content data.root).kindName) := by
      rw [Document.ofData]
      split
      · rename_i fields found
        exact absurd ⟨fields, found⟩ isMap
      · rfl
    rw [noFields]
    constructor
    · rintro ⟨fault, failed, unexpected⟩
      cases failed
      cases unexpected
    · rintro (⟨fields, _, found, _⟩ | ⟨fields, _, _, found, _⟩)
      · exact absurd ⟨fields, found⟩ isMap
      · exact absurd ⟨fields, found⟩ isMap

/-! ## Nested lists -/

/-- An empty list inside so many lists. -/
def nested : Nat → Value
  | 0 => .list []
  | depth + 1 => .list [nested depth]

/-- Too few levels are left for what lies inside so many lists. -/
theorem quotedText_nested {data : Data} {levels depth : Nat} {around : List Nat}
    (tooDeep : levels ≤ depth) : data.quotedText levels around (nested depth) = .error .tooDeep := by
  induction levels generalizing depth with
  | zero => rfl
  | succ levels inductionHypothesis =>
      cases depth with
      | zero => cases tooDeep
      | succ depth =>
          rw [nested, Data.quotedText, Value.textWith]
          · simp [inductionHypothesis (Nat.le_of_succ_le_succ tooDeep), Except.map, bind,
              Except.bind]
          · simp

/-- The snapshot of a section with permissions inside so many lists. -/
def nestedPermissions (depth : Nat) : Data :=
  .ofValue (.map [(.text sectionsKey,
    .map [(.text "/a", .map [(.text "alice", nested depth)])])])

/-- Permissions inside enough lists end the reading of a snapshot. -/
theorem ofData_nestedPermissions_unexpected {depth : Nat} (tooDeep : Data.deepest ≤ depth) :
    ∃ fault, (Document.ofData (nestedPermissions depth)).value = .error fault ∧
      fault.isExpected = false := by
  refine ofData_unexpected_iff.2 (Or.inr ⟨_, [], _, rfl, rfl, by simp, rfl, ?_⟩)
  refine firstFails_cons_iff.2 (Or.inl ⟨_, rfl, firstFails_cons_iff.2 (Or.inl ?_)⟩)
  refine ⟨⟨"alice", rfl⟩, ?_⟩
  cases depth with
  | zero => exact absurd tooDeep (by decide)
  | succ depth => exact quotedText_nested tooDeep

end Snapshot

end PathPolicy
