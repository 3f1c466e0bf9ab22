import PathPolicy.Access
import PathPolicy.Group
import PathPolicy.Principal
import PathPolicy.Text.Pieces

/-!
# Policy documents

A document is one generation of a policy: its sections in order and its groups.  A section is
a named list of entries; its name is the path that the entries are for, in every repository,
or a repository and a path with a colon between them.  An entry grants some permissions to a
principal and denies it all the others, so its two masks never overlap and together hold
every permission.  No two sections and no two groups share a name, and no section is called
like the part of a policy that defines the groups.
-/

namespace PathPolicy

/-! ## Entries -/

/-- What a principal is granted; everything else it is denied. -/
structure Entry where
  principal : Principal
  grants : Access
  deriving DecidableEq, Repr

namespace Entry

/-- What an entry denies is exactly what it does not grant. -/
def denies (entry : Entry) : Access :=
  entry.grants.complement

/-- The letters of the permissions that an entry grants. -/
def permissions (entry : Entry) : String :=
  entry.grants.permissions

/-- The entry with two masks, or the first permission that is in both of them or in
neither. -/
def ofMasks (principal : Principal) (grants denies : Access) : Except Permission Entry :=
  match Permission.all.find? fun permission => grants.has permission == denies.has permission with
  | some permission => .error permission
  | none => .ok ⟨principal, grants⟩

/-- The entry that a permission text makes for a principal. -/
def ofPermissions (principal : Principal) (permissions : String) : Entry :=
  ⟨principal, Access.ofPermissions permissions⟩

/-- The entry of two texts, the token of a principal and its permissions. -/
def parse (token permissions : String) : Except Principal.Fault Entry :=
  (Principal.parse token).map fun principal => ofPermissions principal permissions

/-- Two masks make an entry exactly when the second is the complement of the first. -/
theorem ofMasks_eq_ok_iff {principal : Principal} {grants denies : Access} {entry : Entry} :
    ofMasks principal grants denies = .ok entry ↔
      entry = ⟨principal, grants⟩ ∧ denies = grants.complement := by
  obtain ⟨grantsRead, grantsWrite⟩ := grants
  obtain ⟨deniesRead, deniesWrite⟩ := denies
  cases grantsRead <;> cases grantsWrite <;> cases deniesRead <;> cases deniesWrite <;>
    simp [ofMasks, Permission.all, Access.has, Access.complement, eq_comm]

/-- The masks of an entry make it again. -/
@[simp]
theorem ofMasks_masks (entry : Entry) :
    ofMasks entry.principal entry.grants entry.denies = .ok entry :=
  ofMasks_eq_ok_iff.2 ⟨rfl, rfl⟩

end Entry

/-! ## Sections -/

/-- The name of the section for a path in one repository only. -/
def qualifiedName (repository path : String) : String :=
  repository ++ ":" ++ path

/-- A named list of entries, in the order in which they were written. -/
structure Section where
  name : String
  entries : List Entry
  deriving DecidableEq, Repr

namespace Section

/-- The repository and the path of a name that has both: the name does not begin
with a slash and is cut at its first colon. -/
def qualification? (name : String) : Option (String × String) :=
  if name.toList.head? = some '/' then none
  else
    (Text.breakFirst (· == ':') name.toList).map fun (repository, path) =>
      (String.ofList repository, String.ofList path)

/-- A qualified section is for one repository only. -/
def isQualified (part : Section) : Bool :=
  (qualification? part.name).isSome

/-- The repository of a qualified section. -/
def repository? (part : Section) : Option String :=
  (qualification? part.name).map Prod.fst

/-- The path that a section is for. -/
def path (part : Section) : String :=
  match qualification? part.name with
  | some (_, path) => path
  | none => part.name

/-- A section is found below a prefix when its name begins with it, character by
character. -/
def hasPrefix (start : String) (part : Section) : Bool :=
  start.toList.isPrefixOf part.name.toList

end Section

/-! ## Documents -/

/-- The name that a policy reserves for its group definitions. -/
def groupsName : String :=
  "groups"

/-- One generation of a policy. -/
structure Document where
  sections : List Section
  groups : List Group
  unreserved : ∀ part ∈ sections, part.name ≠ groupsName
  sectionsDistinct : (sections.map Section.name).Nodup
  groupsDistinct : (groups.map Group.name).Nodup
  deriving DecidableEq

namespace Document

/-- Why sections and groups do not make a document. -/
inductive Fault
  | reservedName
  | duplicateSection (name : String)
  | duplicateGroup
  deriving DecidableEq, Repr

/-- The fault in words. -/
def Fault.message : Fault → String
  | .reservedName => "'groups' is reserved for group definitions"
  | .duplicateSection name => "Duplicate section: " ++ name
  | .duplicateGroup => "Duplicate group definition"

/-- The fault of the first section that has the reserved name or the name of an
earlier one. -/
def sectionFault? (earlier : List String) : List Section → Option Fault
  | [] => none
  | part :: rest =>
      if part.name = groupsName then some .reservedName
      else if part.name ∈ earlier then some (.duplicateSection part.name)
      else sectionFault? (part.name :: earlier) rest

/-- A list of sections is free of faults when its names are not reserved, are new
and differ from each other. -/
theorem sectionFault?_eq_none_iff {earlier : List String} {sections : List Section} :
    sectionFault? earlier sections = none ↔
      (∀ part ∈ sections, part.name ≠ groupsName) ∧
        (∀ part ∈ sections, part.name ∉ earlier) ∧ (sections.map Section.name).Nodup := by
  induction sections generalizing earlier with
  | nil => simp [sectionFault?]
  | cons part rest inductionHypothesis =>
      rw [sectionFault?]
      split
      · rename_i reserved
        simp [reserved]
      · split
        · rename_i seen
          simp [seen]
        · rename_i free new
          rw [inductionHypothesis]
          rw [List.forall_mem_cons, List.forall_mem_cons]
          simp only [List.map_cons, List.nodup_cons, List.mem_map, List.mem_cons, not_or,
            not_exists, not_and]
          constructor
          · rintro ⟨freeRest, newRest, distinct⟩
            exact ⟨⟨free, freeRest⟩, ⟨new, fun other member => (newRest other member).2⟩,
              fun other member => (newRest other member).1, distinct⟩
          · rintro ⟨⟨_, freeRest⟩, ⟨_, newRest⟩, differs, distinct⟩
            exact ⟨freeRest, fun other member => ⟨differs other member, newRest other member⟩,
              distinct⟩

/-- The document of some sections and groups, or the first fault among them;
sections are looked at before groups. -/
def ofParts (sections : List Section) (groups : List Group) : Except Fault Document :=
  match checked : sectionFault? [] sections with
  | some fault => .error fault
  | none =>
      if distinct : (groups.map Group.name).Nodup then
        let sound := sectionFault?_eq_none_iff.1 checked
        .ok ⟨sections, groups, sound.1, sound.2.2, distinct⟩
      else .error .duplicateGroup

/-- The names of the sections in order. -/
def sectionNames (document : Document) : List String :=
  document.sections.map Section.name

/-- The section with a name. -/
def section? (document : Document) (name : String) : Option Section :=
  document.sections.find? fun part => part.name == name

/-- The sections below a prefix, in order. -/
def sectionsWithPrefix (document : Document) (start : String) : List Section :=
  document.sections.filter (Section.hasPrefix start)

/-- The members of a group; a group that is not defined has none. -/
def groupMembers (document : Document) (name : String) : MemberSet :=
  match document.groups.find? fun group => group.name == name with
  | some group => group.members
  | none => .empty

/-- The document without sections and groups. -/
def empty : Document :=
  ⟨[], [], by simp, by simp, by simp⟩

end Document

end PathPolicy
