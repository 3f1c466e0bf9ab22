import PathPolicy.Draft
import PathPolicy.Log

/-!
# Snapshots

A snapshot is a document as plain data: the members of each group by its name,
and for each section the permissions by the text of the principal.  Entries of
one section whose principals have the same text fall together.  A snapshot is
read more freely than it is written: what is void counts as missing, and scalars
are taken by their text.
-/

namespace PathPolicy

/-- A document as tables of texts. -/
structure Snapshot where
  groups : Table String (List String)
  sections : Table String (Table String String)
  deriving DecidableEq, Repr

namespace Snapshot

/-- The key of the groups in the data of a snapshot. -/
def groupsKey : String :=
  "groups"

/-- The key of the sections in the data of a snapshot. -/
def sectionsKey : String :=
  "sections"

/-- The fields of a snapshot, the groups in front of the sections. -/
def fields (snapshot : Snapshot) : List (String × Text.Outline) :=
  [(groupsKey,
      .map (snapshot.groups.map fun (name, members) => (name, .list (members.map .text)))),
    (sectionsKey,
      .map (snapshot.sections.map fun (name, entries) =>
        (name, .map (entries.map fun (token, permissions) => (token, .text permissions)))))]

/-- A snapshot as data. -/
def toValue (snapshot : Snapshot) : Value :=
  .ofOutline (.map snapshot.fields)

/-- Why an entry is left out: its key is no principal, or its permissions hold an integer of
too many digits. -/
inductive EntryFault
  | principal (fault : Principal.Fault)
  | tooManyDigits
  deriving DecidableEq, Repr

/-- The fault in words. -/
def EntryFault.message : EntryFault → String
  | .principal fault => (Invalid.principal fault).message
  | .tooManyDigits => TextFault.tooManyDigits.message

/-- An entry is left out. -/
structure Skipped where
  token : String
  sectionName : String
  fault : EntryFault
  deriving DecidableEq, Repr

/-- The record of an entry that is left out. -/
def Skipped.record (skipped : Skipped) : Record :=
  ⟨.warning, .snapshot,
    "Skipping entry '" ++ skipped.token ++ "' in [" ++ skipped.sectionName ++ "]: " ++
      skipped.fault.message⟩

/-- Why data are no snapshot: they have no fields, a part has no entries, the
members of a group cannot be listed, a name, a member or permissions have no text, or the
document is not valid. -/
inductive Fault
  | noFields (kind : String)
  | noEntries (kind : String)
  | notIterable (kind : String)
  | noText (fault : TextFault)
  | document (fault : Document.Fault)
  deriving DecidableEq, Repr

/-- The fault in words. -/
def Fault.message : Fault → String
  | .noFields kind => "'" ++ kind ++ "' object has no attribute 'get'"
  | .noEntries kind => "'" ++ kind ++ "' object has no attribute 'items'"
  | .notIterable kind => "'" ++ kind ++ "' object is not iterable"
  | .noText fault => fault.message
  | .document fault => (Invalid.document fault).message

/-- Whether a caller expects the fault. -/
def Fault.isExpected : Fault → Bool
  | .notIterable _ => false
  | .noText .tooDeep => false
  | _ => true

/-- The entries of data that should be a map; what is missing or void has none. -/
def entriesOf (data : Data) : Option Value → Except Fault (List (Scalar × Value))
  | none => .ok []
  | some value =>
      match data.content value with
      | .map entries => .ok entries
      | other => if other.isVoid then .ok [] else .error (.noEntries other.kindName)

/-- A text that must be there. -/
def required (text : Except TextFault String) : Except Fault String :=
  text.mapError .noText

/-- The set of the members in some texts; blanks around a member and texts without a
name do not count. -/
def membersOf (texts : List String) : MemberSet :=
  .ofList <| texts.filterMap fun text =>
    let member := Text.trim text.toList
    if member.isEmpty then none else some (String.ofList member)

/-- Reads the members of a group: a text lists them between commas, other data by what
they hold, and a map by its keys. -/
def readMembers (data : Data) (value : Value) : Except Fault MemberSet :=
  match data.content value with
  | .scalar (.text listed) => .ok (.ofCommaSeparated listed)
  | .scalar (.bytes content) =>
      .ok (membersOf (content.map fun byte => toString byte.toNat))
  | .scalar datum =>
      if datum.isVoid then .ok .empty else .error (.notIterable datum.kindName)
  | .list items => (items.mapM fun item => required (data.text item)).map membersOf
  | .pair first second =>
      ([first, second].mapM fun item => required (data.text item)).map membersOf
  | .set members => (members.mapM fun member => required member.plainText).map membersOf
  | .map entries => (entries.mapM fun entry => required entry.1.plainText).map membersOf
  | other => .error (.notIterable other.kindName)

/-- Reads the definition of a group: its name, and then its members. -/
def readGroup (data : Data) (definition : Scalar × Value) : Except Fault Group := do
  let name ← required definition.1.plainText
  let members ← readMembers data definition.2
  pure ⟨name, members⟩

/-- Reads the definitions of groups. -/
def readGroups (data : Data) (definitions : List (Scalar × Value)) : Except Fault (List Group) :=
  definitions.mapM (readGroup data)

/-- The permission text that data stand for; void data grant nothing. -/
def permissionsOf (data : Data) (value : Value) : Except TextFault String :=
  if (data.content value).isVoid then .ok "" else data.text value

/-- Reads an entry whose key has a text.  Permissions that are nested too deep are no fault of
the entry. -/
def readEntry (data : Data) (token : String) (permissions : Value) :
    Except Fault (Except EntryFault Entry) :=
  match permissionsOf data permissions with
  | .error .tooDeep => .error (.noText .tooDeep)
  | .error .tooManyDigits => .ok (.error .tooManyDigits)
  | .ok permissions => .ok ((Entry.parse token permissions).mapError .principal)

/-- Reads the entries of a section, up to the first whose key has no text.  An entry is
only left out if its key and the section can be named. -/
def readEntries (data : Data) (sectionName : Scalar) :
    List (Scalar × Value) → Traced Skipped (Except Fault (List Entry))
  | [] => pure (.ok [])
  | (token, permissions) :: rest =>
      match required token.plainText with
      | .error fault => pure (.error fault)
      | .ok token =>
          match readEntry data token permissions, required sectionName.plainText with
          | .error fault, _ => pure (.error fault)
          | .ok (.ok entry), _ => do
              let entries ← readEntries data sectionName rest
              pure (entries.map (entry :: ·))
          | .ok (.error _), .error fault => pure (.error fault)
          | .ok (.error fault), .ok name => do
              Traced.note ⟨token, name, fault⟩
              readEntries data sectionName rest

/-- Reads a section: its entries, and then its name. -/
def readSection (data : Data) (name : Scalar) (value : Value) :
    Traced Skipped (Except Fault Section) :=
  match entriesOf data (some value) with
  | .error fault => pure (.error fault)
  | .ok raw => do
      match ← readEntries data name raw with
      | .error fault => pure (.error fault)
      | .ok entries => pure ((required name.plainText).map fun name => ⟨name, entries⟩)

/-- Reads sections one after the other, up to the first that cannot be read. -/
def readSections (data : Data) : List (Scalar × Value) →
    Traced Skipped (Except Fault (List Section))
  | [] => pure (.ok [])
  | (name, value) :: rest => do
      match ← readSection data name value with
      | .error fault => pure (.error fault)
      | .ok part => do
          let sections ← readSections data rest
          pure (sections.map (part :: ·))

end Snapshot

namespace Document

/-- The snapshot of a document. -/
def toSnapshot (document : Document) : Snapshot where
  groups := Table.ofPairs (document.groups.map fun group => (group.name, group.members.toList))
  sections :=
    Table.ofPairs <| document.sections.map fun part =>
      (part.name, Table.ofPairs (part.entries.map fun entry =>
        (entry.principal.text, entry.permissions)))

/-- The document that data describe.  Groups are read before sections, and both
before the names are compared. -/
def ofData (data : Data) : Traced Snapshot.Skipped (Except Snapshot.Fault Document) :=
  match data.content data.root with
  | .map fields =>
      let groups := do
        let definitions ← Snapshot.entriesOf data (Value.entry? fields Snapshot.groupsKey)
        let groups ← Snapshot.readGroups data definitions
        let raw ← Snapshot.entriesOf data (Value.entry? fields Snapshot.sectionsKey)
        pure (groups, raw)
      match groups with
      | .error fault => pure (.error fault)
      | .ok (groups, raw) => do
          match ← Snapshot.readSections data raw with
          | .error fault => pure (.error fault)
          | .ok sections => pure ((Document.ofParts sections groups).mapError .document)
  | other => pure (.error (.noFields other.kindName))

end Document

end PathPolicy
