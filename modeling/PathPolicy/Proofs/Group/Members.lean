import PathPolicy.Proofs.Snapshot.Loaded
import PathPolicy.Proofs.Text.Lines
import PathPolicy.Proofs.Text.Pieces

/-!
# Members between commas

The members that a text lists are the pieces between its commas that hold more than blanks.  Any
name that such a piece can spell can be listed, and a list of such names is read as the set of them,
whatever their order is.
-/

namespace PathPolicy

/-- A text that a list of members can name. -/
structure PolicyText.IsMember (member : List Char) : Prop extends Text.IsToken member where
  unseparated : ',' ∉ member

namespace MemberSet

theorem mem_ofCommaSeparated_iff {listed member : String} :
    member ∈ ofCommaSeparated listed ↔
      member ≠ "" ∧ ∃ piece ∈ Text.splitAt ',' listed.toList, Text.trim piece = member.toList := by
  have spelled : ∀ piece : List Char,
      Text.trimmed (String.ofList piece) = member ↔ Text.trim piece = member.toList := by
    intro piece
    rw [Text.trimmed, String.toList_ofList, ← String.toList_inj, String.toList_ofList]
  rw [← Snapshot.membersOf_splitAt, Snapshot.mem_membersOf_iff]
  simp only [List.mem_map, exists_exists_and_eq_and, spelled]

/-- What a text without a line break lists is the name of a member. -/
theorem isMember_of_mem_ofCommaSeparated {listed member : String}
    (unbroken : Text.IsUnbroken listed.toList) (isListed : member ∈ ofCommaSeparated listed) :
    PolicyText.IsMember member.toList := by
  rcases mem_ofCommaSeparated_iff.1 isListed with ⟨named, piece, isPiece, spelled⟩
  have occupied : Text.trim piece ≠ [] := by
    rw [spelled]
    intro empty
    exact named (String.toList_eq_nil_iff.1 empty)
  have pieceUnbroken : Text.IsUnbroken piece :=
    unbroken.of_subset (Text.subset_of_mem_splitAt isPiece)
  rw [← spelled]
  refine ⟨Text.isToken_trim pieceUnbroken occupied, ?_⟩
  intro separated
  exact Text.not_mem_of_mem_splitAt isPiece ((Text.trim_sublist piece).subset separated)

end MemberSet

/-! ## Lists that are written -/

namespace PolicyText

/-- The list of some names, with a comma and a space between two of them. -/
def listText (names : List (List Char)) : List Char :=
  [',', ' '].intercalate names

theorem listText_ne_nil {first : List Char} (occupied : first ≠ []) (rest : List (List Char)) :
    listText (first :: rest) ≠ [] := by
  cases rest <;> simp [listText, List.intercalate_cons_cons, occupied]

/-- A list of names of members is trimmed and holds no line break. -/
theorem isTrimmed_listText {names : List (List Char)} (members : ∀ name ∈ names, IsMember name) :
    Text.IsTrimmed (listText names) ∧ Text.IsUnbroken (listText names) := by
  induction names with
  | nil => exact ⟨rfl, by simp [listText, Text.IsUnbroken]⟩
  | cons first rest inductionHypothesis =>
      rw [List.forall_mem_cons] at members
      rcases members with ⟨isMember, othersMembers⟩
      cases rest with
      | nil =>
          rw [listText, List.intercalate_singleton]
          exact ⟨isMember.trimmed, isMember.unbroken⟩
      | cons second others =>
          rcases inductionHypothesis othersMembers with ⟨laterTrimmed, laterUnbroken⟩
          have laterOccupied : listText (second :: others) ≠ [] :=
            listText_ne_nil (othersMembers second List.mem_cons_self).occupied others
          rw [listText, List.intercalate_cons_cons]
          constructor
          · exact isMember.trimmed.append laterTrimmed isMember.occupied laterOccupied [',', ' ']
          · rw [Text.isUnbroken_append_iff, Text.isUnbroken_append_iff]
            exact ⟨⟨isMember.unbroken, by decide⟩, laterUnbroken⟩

/-- Between the commas of a list of names stand the names. -/
theorem map_trim_splitAt_listText {names : List (List Char)} (occupied : names ≠ [])
    (members : ∀ name ∈ names, IsMember name) :
    (Text.splitAt ',' (listText names)).map Text.trim = names := by
  have trimmed : ∀ name ∈ names, Text.trim name = name := fun name member =>
    (members name member).trimmed
  cases names with
  | nil => exact absurd rfl occupied
  | cons first others =>
      have unseparated : ∀ name ∈ first :: others, ',' ∉ name := fun name member =>
        (members name member).unseparated
      rw [listText, Text.splitAt_intercalate (by decide) unseparated, List.map_cons,
        List.map_map, trimmed first List.mem_cons_self]
      refine congrArg (first :: ·) ?_
      rw [List.map_congr_left, List.map_id]
      intro name member
      rw [Function.comp_apply, List.singleton_append, Text.trim_cons_of_blank rfl]
      exact trimmed name (List.mem_cons_of_mem _ member)

end PolicyText

/-- A list of names of members is read as the set of these names. -/
theorem MemberSet.ofCommaSeparated_listText {names : List String}
    (members : ∀ name ∈ names, PolicyText.IsMember name.toList) :
    ofCommaSeparated (String.ofList (PolicyText.listText (names.map String.toList))) =
      ofList names := by
  apply eq_of_mem_iff
  intro name
  rw [mem_ofCommaSeparated_iff, mem_ofList, String.toList_ofList]
  by_cases empty : names = []
  · subst empty
    constructor
    · rintro ⟨named, piece, isPiece, spelled⟩
      rw [List.mem_singleton.1 isPiece] at spelled
      exact absurd (String.toList_eq_nil_iff.1 spelled.symm) named
    · intro member
      cases member
  · have spelled :
        (Text.splitAt ',' (PolicyText.listText (names.map String.toList))).map Text.trim =
          names.map String.toList := by
      apply PolicyText.map_trim_splitAt_listText (by simp [empty])
      simpa using members
    have listed : (∃ piece ∈ Text.splitAt ',' (PolicyText.listText (names.map String.toList)),
        Text.trim piece = name.toList) ↔ name ∈ names := by
      rw [← List.mem_map, spelled,
        List.mem_map_of_injective fun _ _ same => String.toList_injective same]
    rw [listed]
    constructor
    · rintro ⟨_, member⟩
      exact member
    · intro member
      refine ⟨?_, member⟩
      rintro rfl
      exact (members "" member).occupied rfl

end PathPolicy
