import PathPolicy.Document

/-!
# Names in a document

A name stands for at most one section and for at most one group of a document, so
looking one up is the same as asking which one has the name.
-/

namespace PathPolicy

/-- Among items whose keys differ, the first one with a key is the only one. -/
theorem find?_key_eq_some_iff {α : Type} {key : α → String} {items : List α}
    (distinct : (items.map key).Nodup) {name : String} {item : α} :
    items.find? (fun other => key other == name) = some item ↔ item ∈ items ∧ key item = name := by
  induction items with
  | nil => simp
  | cons first rest inductionHypothesis =>
      rw [List.map_cons, List.nodup_cons] at distinct
      obtain ⟨firstDiffers, restDistinct⟩ := distinct
      rw [List.find?_cons]
      by_cases same : key first = name
      · rw [beq_iff_eq.2 same]
        constructor
        · intro found
          cases found
          exact ⟨List.mem_cons_self, same⟩
        · rintro ⟨member, named⟩
          rcases List.mem_cons.1 member with rfl | later
          · rfl
          · -- A later item with the key would repeat the key of the first.
            exact absurd (List.mem_map.2 ⟨item, later, named.trans same.symm⟩) firstDiffers
      · rw [beq_eq_false_iff_ne.2 same, inductionHypothesis restDistinct]
        constructor
        · rintro ⟨later, named⟩
          exact ⟨List.mem_cons_of_mem first later, named⟩
        · rintro ⟨member, named⟩
          rcases List.mem_cons.1 member with rfl | later
          · exact absurd named same
          · exact ⟨later, named⟩

namespace Document

theorem section?_eq_some_iff {document : Document} {name : String} {part : Section} :
    document.section? name = some part ↔ part ∈ document.sections ∧ part.name = name :=
  find?_key_eq_some_iff document.sectionsDistinct

theorem section?_name_of_mem {document : Document} {part : Section}
    (member : part ∈ document.sections) : document.section? part.name = some part := by
  rw [section?_eq_some_iff]
  exact ⟨member, rfl⟩

/-- A user belongs to the group of a name when a group that is called so lists the user. -/
theorem mem_groupMembers_iff {document : Document} {name user : String} :
    user ∈ document.groupMembers name ↔
      ∃ group ∈ document.groups, group.name = name ∧ user ∈ group.members := by
  rw [groupMembers]
  constructor
  · intro listed
    split at listed
    · rename_i group found
      obtain ⟨member, named⟩ := (find?_key_eq_some_iff document.groupsDistinct).1 found
      exact ⟨group, member, named, listed⟩
    · exact absurd listed (MemberSet.not_mem_empty user)
  · rintro ⟨group, member, named, listed⟩
    rw [(find?_key_eq_some_iff document.groupsDistinct).2 ⟨member, named⟩]
    exact listed

/-! ## Documents of their parts -/

/-- Sections and groups that keep the rules on names make a document. -/
theorem exists_ofParts_eq_ok {sections : List Section} {groups : List Group}
    (unreserved : ∀ part ∈ sections, part.name ≠ groupsName)
    (sectionsDistinct : (sections.map Section.name).Nodup)
    (groupsDistinct : (groups.map Group.name).Nodup) :
    ∃ document, ofParts sections groups = .ok document := by
  have sound : sectionFault? [] sections = none :=
    sectionFault?_eq_none_iff.2 ⟨unreserved, by simp, sectionsDistinct⟩
  rw [ofParts]
  split
  · rename_i fault faulty
    rw [sound] at faulty
    cases faulty
  · rw [dif_pos groupsDistinct]
    exact ⟨_, rfl⟩

/-- The document of some parts has these parts. -/
theorem parts_of_ofParts_eq_ok {sections : List Section} {groups : List Group} {document : Document}
    (made : ofParts sections groups = .ok document) :
    document.sections = sections ∧ document.groups = groups := by
  rw [ofParts] at made
  split at made
  · cases made
  · split at made
    · cases made
      exact ⟨rfl, rfl⟩
    · cases made

/-- A document is made again from its own parts. -/
theorem ofParts_sections_groups (document : Document) :
    ofParts document.sections document.groups = .ok document := by
  obtain ⟨made, ofParts_eq⟩ := exists_ofParts_eq_ok document.unreserved document.sectionsDistinct
    document.groupsDistinct
  obtain ⟨sameSections, sameGroups⟩ := parts_of_ofParts_eq_ok ofParts_eq
  cases document
  cases made
  cases sameSections
  cases sameGroups
  exact ofParts_eq

end Document

end PathPolicy
