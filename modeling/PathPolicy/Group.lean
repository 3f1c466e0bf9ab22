import PathPolicy.Text.Pieces

/-!
# Groups

A group is a name for a set of user names.  The set is kept in rising order
without repetition, so two sets with the same members are equal.  Members are
never looked up as groups again.
-/

namespace PathPolicy

/-- A set of user names in rising order. -/
structure MemberSet where
  toList : List String
  rising : toList.Pairwise (· < ·)
  deriving DecidableEq, Repr

namespace MemberSet

/-- Puts a name into a rising list, unless it is there. -/
def insertName (name : String) : List String → List String
  | [] => [name]
  | other :: rest =>
      if name < other then name :: other :: rest
      else if name = other then other :: rest
      else other :: insertName name rest

@[simp]
theorem mem_insertName {name member : String} {names : List String} :
    member ∈ insertName name names ↔ member = name ∨ member ∈ names := by
  induction names with
  | nil => simp [insertName]
  | cons other rest inductionHypothesis =>
      rw [insertName]
      split
      · simp
      · split
        · rename_i same
          simp [same]
        · simp only [List.mem_cons, inductionHypothesis]
          constructor
          · rintro (h | h | h) <;> simp [h]
          · rintro (h | h | h) <;> simp [h]

theorem rising_insertName {name : String} {names : List String}
    (rising : names.Pairwise (· < ·)) : (insertName name names).Pairwise (· < ·) := by
  induction names with
  | nil => simp [insertName]
  | cons other rest inductionHypothesis =>
      obtain ⟨least, risingRest⟩ := List.pairwise_cons.1 rising
      rw [insertName]
      split
      · rename_i less
        refine List.pairwise_cons.2 ⟨?_, rising⟩
        intro member isMember
        rcases List.mem_cons.1 isMember with rfl | isLater
        · exact less
        · exact String.lt_trans less (least member isLater)
      · split
        · exact rising
        · rename_i notLess different
          refine List.pairwise_cons.2 ⟨?_, inductionHypothesis risingRest⟩
          intro member isMember
          rcases mem_insertName.1 isMember with rfl | isLater
          · rcases String.le_total other member with below | above
            · exact String.not_le.1 fun back => different (String.le_antisymm back below)
            · exact absurd (String.not_le.1 fun back => different (String.le_antisymm above back))
                notLess
          · exact least member isLater

/-- The set without members. -/
def empty : MemberSet :=
  ⟨[], List.Pairwise.nil⟩

/-- The set with one more member. -/
def insert (name : String) (members : MemberSet) : MemberSet :=
  ⟨insertName name members.toList, rising_insertName members.rising⟩

/-- The set of the names in a list. -/
def ofList (names : List String) : MemberSet :=
  names.foldr insert empty

instance : Membership String MemberSet :=
  ⟨fun members name => name ∈ members.toList⟩

instance (name : String) (members : MemberSet) : Decidable (name ∈ members) :=
  inferInstanceAs (Decidable (name ∈ members.toList))

@[simp]
theorem mem_toList {name : String} {members : MemberSet} :
    name ∈ members.toList ↔ name ∈ members :=
  Iff.rfl

@[simp]
theorem not_mem_empty (name : String) : name ∉ empty := by
  intro member
  cases member

@[simp]
theorem mem_insert {name member : String} {members : MemberSet} :
    member ∈ members.insert name ↔ member = name ∨ member ∈ members :=
  mem_insertName

/-- The members of the set of a list are the names in the list. -/
@[simp]
theorem mem_ofList {name : String} {names : List String} : name ∈ ofList names ↔ name ∈ names := by
  induction names with
  | nil => simp [ofList]
  | cons first rest inductionHypothesis =>
      have unfolded : ofList (first :: rest) = (ofList rest).insert first := rfl
      rw [unfolded, mem_insert, inductionHypothesis, List.mem_cons]

/-- Two sets with the same members are equal. -/
theorem eq_of_mem_iff {left right : MemberSet} (same : ∀ name, name ∈ left ↔ name ∈ right) :
    left = right := by
  have leftDistinct : left.toList.Nodup := left.rising.imp String.ne_of_lt
  have rightDistinct : right.toList.Nodup := right.rising.imp String.ne_of_lt
  have permuted : left.toList.Perm right.toList :=
    (List.perm_ext_iff_of_nodup leftDistinct rightDistinct).2 same
  have sameList : left.toList = right.toList :=
    permuted.eq_of_pairwise
      (fun name _ _ _ below above => absurd (String.lt_trans below above) (String.lt_irrefl name))
      left.rising right.rising
  cases left
  cases right
  cases sameList
  rfl

/-- The members that a text lists between commas; blanks around a member and items
without a name do not count. -/
def ofCommaSeparated (text : String) : MemberSet :=
  ofList <| ((Text.splitAt ',' text.toList).map Text.trim).filterMap fun member =>
    if member.isEmpty then none else some (String.ofList member)

end MemberSet

/-- A name for a set of users. -/
structure Group where
  name : String
  members : MemberSet
  deriving DecidableEq, Repr

end PathPolicy
