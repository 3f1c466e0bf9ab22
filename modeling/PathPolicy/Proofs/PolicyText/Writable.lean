import Mathlib.Data.List.Nodup
import PathPolicy.Proofs.Group.Members
import PathPolicy.Proofs.PolicyText.Tokens

/-!
# Documents that a policy text can describe

The names in a document that is read from a text are those that the lines of a text can give, and
inside a section no two entries are for the same principal.  A document of which this holds is
writable.
-/

namespace PathPolicy

open PolicyText (IsKey IsMember IsSectionName)

namespace Principal

/-- A principal is writable when its text can be the key of an entry and stands for it. -/
def IsWritable : Principal → Prop
  | .anyone => True
  | .user name => IsKey name.val.toList ∧ name.val ≠ "*" ∧ name.val.toList.head? ≠ some '@'
  | .group name => Text.trimEnd name.val.toList = name.val.toList ∧
      (∀ c ∈ name.val.toList, c ≠ ':' ∧ c ≠ '=') ∧ Text.IsUnbroken name.val.toList

theorem isKey_text_anyone : IsKey anyone.text.toList where
  occupied := by decide
  trimmed := by decide
  opens := by
    rintro c ⟨⟩
    decide
  unseparated := List.forall_mem_singleton.2 (by decide)
  unbroken := by decide

/-- Behind an at sign a name need not be trimmed in front and may begin as it likes. -/
theorem isKey_text_group_iff {name : Name} :
    IsKey (group name).text.toList ↔ (group name).IsWritable := by
  have spelled : (group name).text.toList = '@' :: name.val.toList := String.toList_append
  have trimmed : Text.IsTrimmed ('@' :: name.val.toList) ↔
      Text.trimEnd name.val.toList = name.val.toList := by
    rw [Text.IsTrimmed, Text.trim_cons_of_visible rfl, List.cons.injEq, and_iff_right rfl]
  rw [spelled]
  constructor
  · intro isKey
    exact ⟨trimmed.1 isKey.trimmed, (List.forall_mem_cons.1 isKey.unseparated).2,
      (List.forall_mem_cons.1 isKey.unbroken).2⟩
  · rintro ⟨trimmedEnd, unseparated, unbroken⟩
    have isToken : Text.IsToken ('@' :: name.val.toList) :=
      ⟨List.cons_ne_nil _ _, trimmed.2 trimmedEnd, Text.isUnbroken_cons_iff.2 ⟨rfl, unbroken⟩⟩
    refine ⟨isToken, ?_, ?_⟩
    · rintro c ⟨⟩
      decide
    · exact List.forall_mem_cons.2 ⟨by decide, unseparated⟩

/-- A principal is writable when it is spelled out by the key of an entry. -/
theorem isWritable_iff {principal : Principal} :
    principal.IsWritable ↔ principal.IsSpelledOut ∧ IsKey principal.text.toList := by
  cases principal with
  | anyone => exact iff_of_true trivial ⟨isSpelledOut_anyone, isKey_text_anyone⟩
  | user name =>
      rw [isSpelledOut_user_iff]
      constructor
      · rintro ⟨isKey, noStar, unmarked⟩
        exact ⟨⟨isKey.trimmed, noStar, unmarked⟩, isKey⟩
      · rintro ⟨⟨_, noStar, unmarked⟩, isKey⟩
        exact ⟨isKey, noStar, unmarked⟩
  | group name =>
      rw [isSpelledOut_group_iff, isKey_text_group_iff]
      constructor
      · intro writable
        exact ⟨writable.1, writable⟩
      · rintro ⟨_, writable⟩
        exact writable

end Principal

namespace Document

/-- A document is writable when all its names can be written and each of its sections has one entry
for a principal. -/
structure IsWritable (document : Document) : Prop where
  sectionNames : ∀ part ∈ document.sections, IsSectionName part.name.toList
  principalsDistinct : ∀ part ∈ document.sections, (part.entries.map Entry.principal).Nodup
  principals : ∀ part ∈ document.sections, ∀ entry ∈ part.entries, entry.principal.IsWritable
  groupNames : ∀ group ∈ document.groups, IsKey group.name.toList
  members : ∀ group ∈ document.groups, ∀ member ∈ group.members, IsMember member.toList

end Document

namespace PolicyText

variable {source text : String} {document : Document}

theorem isWritable_of_parse_eq_ok {token permissions : String} {entry : Entry}
    (isKey : IsKey token.toList) (read : Entry.parse token permissions = .ok entry) :
    entry.principal.IsWritable := by
  rcases map_eq_ok_iff.1 read with ⟨principal, readPrincipal, rfl⟩
  have spelled : principal.text.toList = token.toList := by
    rw [Principal.text_of_parse_eq_ok readPrincipal, Text.trimmed, String.toList_ofList]
    exact isKey.trimmed
  apply Principal.isWritable_iff.2
  constructor
  · exact Principal.isSpelledOut_of_parse_eq_ok readPrincipal
  · rw [Entry.ofPermissions, spelled]
    exact isKey

/-- What is read from a text is writable. -/
theorem isWritable_of_parse (parsed : (parse source text).value = .ok document) :
    document.IsWritable := by
  have contents := readSections_contents text
  rcases parts_of_parse parsed with ⟨sections, groups⟩
  have rawOf : ∀ part ∈ document.sections, ∃ raw ∈ (readSections text).1,
      ⟨raw.1, Entry.ofTexts raw.2⟩ = part := by
    intro part member
    rw [sections] at member
    rcases List.mem_map.1 member with ⟨raw, kept, made⟩
    exact ⟨raw, List.mem_of_mem_filter kept, made⟩
  have definitionOf : ∀ group ∈ document.groups,
      ∃ pair ∈ (readSections text).1.entries groupsName,
        ⟨pair.1, .ofCommaSeparated pair.2⟩ = group := by
    intro group member
    rw [groups] at member
    exact List.mem_map.1 member
  constructor
  · intro part member
    rcases rawOf part member with ⟨raw, present, rfl⟩
    exact (contents raw present).1
  · intro part member
    apply List.Nodup.of_map Principal.text
    rw [List.map_map]
    exact hasDistinctPrincipals_of_parse parsed part member
  · intro part member entry entryMember
    rcases rawOf part member with ⟨raw, present, rfl⟩
    rcases Entry.mem_ofTexts_iff.1 entryMember with ⟨pair, listed, read⟩
    exact isWritable_of_parse_eq_ok ((contents raw present).2 pair listed).1 read
  · intro group member
    rcases definitionOf group member with ⟨pair, listed, rfl⟩
    exact (contents.entries groupsName pair listed).1
  · intro group member user isMember
    rcases definitionOf group member with ⟨pair, listed, rfl⟩
    exact MemberSet.isMember_of_mem_ofCommaSeparated (contents.entries groupsName pair listed).2
      isMember

end PolicyText

end PathPolicy
