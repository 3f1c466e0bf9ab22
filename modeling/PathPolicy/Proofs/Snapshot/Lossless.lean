import PathPolicy.Proofs.PolicyText.Tokens

/-!
# Documents that a snapshot keeps

A snapshot holds the texts of a document, and reading these texts again gives the document back
unless a text is shared or stands for something else.  The main statement says this of every
document, whether it was read or put together from its parts: the document that is read is the one
that was written exactly when no two principals of a section have the same text and all names are
plain.
-/

namespace PathPolicy

/-- A name is plain when it is read from the text of its principal: the name of a user has no blanks
around it, is no star and begins with no at sign, and the name of a group ends in no blank. -/
def Principal.HasPlainName : Principal → Prop
  | .anyone => True
  | .user name =>
      Text.IsTrimmed name.val.toList ∧ name.val ≠ "*" ∧ name.val.toList.head? ≠ some '@'
  | .group name => ∀ c ∈ name.val.toList.getLast?, Text.isBlank c = false

/-- A document is plain when each section has one entry for the text of a principal, all principals
have plain names, and the members of groups have names without blanks around them. -/
structure Document.IsPlain (document : Document) : Prop where
  principalsDistinct : ∀ part ∈ document.sections,
    (part.entries.map fun entry => entry.principal.text).Nodup
  principals : ∀ part ∈ document.sections, ∀ entry ∈ part.entries, entry.principal.HasPlainName
  members : ∀ group ∈ document.groups, ∀ member ∈ group.members,
    member ≠ "" ∧ Text.IsTrimmed member.toList

/-! ## Plain names -/

theorem Text.trimEnd_eq_self_iff {characters : List Char} :
    trimEnd characters = characters ↔ ∀ c ∈ characters.getLast?, isBlank c = false := by
  rw [trimEnd_eq_rdropWhile, List.rdropWhile_eq_self_iff]
  constructor
  · intro visible c isLast
    rcases List.getLast?_eq_some_iff.1 isLast with ⟨front, rfl⟩
    simpa using visible (by simp)
  · intro visible occupied
    rw [visible _ (List.getLast?_eq_some_getLast occupied)]
    exact Bool.false_ne_true

namespace Principal

theorem isSpelledOut_iff_hasPlainName {principal : Principal} :
    principal.IsSpelledOut ↔ principal.HasPlainName := by
  cases principal with
  | anyone => exact iff_of_true isSpelledOut_anyone trivial
  | user name => exact isSpelledOut_user_iff
  | group name => exact isSpelledOut_group_iff.trans Text.trimEnd_eq_self_iff

theorem IsSpelledOut.trimmed_text {principal : Principal} (spelledOut : principal.IsSpelledOut) :
    Text.trimmed principal.text = principal.text :=
  (text_of_parse_eq_ok spelledOut).symm

end Principal

theorem Text.trimmed_eq_self_iff {text : String} :
    trimmed text = text ↔ IsTrimmed text.toList := by
  rw [trimmed, IsTrimmed, ← String.toList_inj, String.toList_ofList]

/-! ## Sections -/

/-- A section whose entries are spelled out and that is read as it was has no two entries with the
same text. -/
theorem Section.nodup_texts_of_resaved_eq {part : Section}
    (spelledOut : ∀ entry ∈ part.entries, entry.principal.IsSpelledOut)
    (same : part.resaved = part) :
    (part.entries.map fun entry => entry.principal.text).Nodup := by
  let pairs := part.entries.map fun entry => (entry.principal.text, entry.permissions)
  have trimmed : ∀ pair ∈ Table.ofPairs pairs, Text.trimmed pair.1 = pair.1 := by
    rintro ⟨token, permissions⟩ member
    rcases Table.mem_ofPairs_iff.1 member with ⟨before, after, split, _⟩
    have written : (token, permissions) ∈ pairs := by simp [split]
    rcases List.mem_map.1 written with ⟨entry, listed, made⟩
    cases made
    exact (spelledOut entry listed).trimmed_text
  have kept : part.entries = Entry.ofTexts (Table.ofPairs pairs) :=
    (congrArg Section.entries same).symm
  rw [kept]
  exact (Table.nodup_keys_ofPairs pairs).sublist (Entry.map_text_ofTexts_sublist trimmed)

/-! ## Documents -/

namespace Document

variable {document : Document}

theorem isPlain_iff :
    document.IsPlain ↔ document.IsSpelledOut ∧ document.HasDistinctPrincipals := by
  constructor
  · intro plain
    have principals : ∀ part ∈ document.sections, ∀ entry ∈ part.entries,
        entry.principal.IsSpelledOut := by
      intro part member entry listed
      exact Principal.isSpelledOut_iff_hasPlainName.2 (plain.principals part member entry listed)
    have members : ∀ group ∈ document.groups, ∀ member ∈ group.members,
        member ≠ "" ∧ Text.trimmed member = member := by
      intro group isGroup member isMember
      rcases plain.members group isGroup member isMember with ⟨named, trimmed⟩
      exact ⟨named, Text.trimmed_eq_self_iff.2 trimmed⟩
    exact ⟨⟨principals, members⟩, plain.principalsDistinct⟩
  · rintro ⟨spelledOut, distinct⟩
    refine ⟨distinct, ?_, ?_⟩
    · intro part member entry listed
      exact Principal.isSpelledOut_iff_hasPlainName.1
        (spelledOut.principals part member entry listed)
    · intro group isGroup member isMember
      rcases spelledOut.members group isGroup member isMember with ⟨named, trimmed⟩
      exact ⟨named, Text.trimmed_eq_self_iff.1 trimmed⟩

theorem isSpelledOut_of_resaved_eq (same : document.resaved = document) :
    document.IsSpelledOut := by
  have spelledOut := isSpelledOut_of_ofData document.value_ofData_toSnapshot
  rw [same] at spelledOut
  exact spelledOut

theorem hasDistinctPrincipals_of_resaved_eq (same : document.resaved = document) :
    document.HasDistinctPrincipals := by
  have sameSections : document.sections.map Section.resaved = document.sections.map id := by
    rw [List.map_id]
    exact congrArg Document.sections same
  intro part member
  exact Section.nodup_texts_of_resaved_eq
    ((isSpelledOut_of_resaved_eq same).principals part member)
    (List.map_inj_left.1 sameSections part member)

theorem IsPlain.resaved_eq (plain : document.IsPlain) : document.resaved = document := by
  rcases isPlain_iff.1 plain with ⟨spelledOut, distinct⟩
  have read := ofData_of_spells spelledOut distinct
    (Data.spells_ofOutline (.ofValue document.toSnapshot.toValue) (.map document.toSnapshot.fields))
  have readAgain := document.value_ofData_toSnapshot
  rw [read, Traced.value_pure] at readAgain
  exact (Except.ok.inj readAgain).symm

/-- The snapshot of any document can be read, and what is read is the same document exactly when
the document is plain. -/
theorem snapshot_reads_back_iff_isPlain (document : Document) :
    ∃ again, (ofData (.ofValue document.toSnapshot.toValue)).value = .ok again ∧
      (again = document ↔ document.IsPlain) := by
  refine ⟨document.resaved, document.value_ofData_toSnapshot, ?_⟩
  constructor
  · intro same
    exact isPlain_iff.2
      ⟨isSpelledOut_of_resaved_eq same, hasDistinctPrincipals_of_resaved_eq same⟩
  · exact IsPlain.resaved_eq

end Document

end PathPolicy
