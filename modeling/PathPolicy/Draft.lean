import PathPolicy.Document
import PathPolicy.Value

/-!
# Drafts

A draft is a part of a policy whose fields may hold any data.  Building it checks
the fields first, all of them, and only then the rules of the part itself.
-/

namespace PathPolicy

/-- The parts that have fields. -/
inductive Model
  | principal
  | entry
  | section
  | group
  | document
  | settings
  deriving DecidableEq, Repr

/-- The name of a part in messages. -/
def Model.name : Model → String
  | .principal => "Principal"
  | .entry => "RuleEntry"
  | .section => "Section"
  | .group => "Group"
  | .document => "PolicyDocument"
  | .settings => "AuthzConfig"

/-- What is wrong with the data of a field. -/
inductive FieldProblem
  | missing
  | notText
  | notKind
  | notBoolean
  | unreadableBoolean
  | notPath
  | notPermitted
  deriving DecidableEq, Repr

/-- The problem in words. -/
def FieldProblem.message : FieldProblem → String
  | .missing => "Field required"
  | .notText => "Input should be a valid string"
  | .notKind => "Input should be 'anyone', 'user' or 'group'"
  | .notBoolean => "Input should be a valid boolean"
  | .unreadableBoolean => "Input should be a valid boolean, unable to interpret input"
  | .notPath => "Input is not a valid path for <class 'pathlib.Path'>"
  | .notPermitted => "Extra inputs are not permitted"

/-- A field, named from its part on, and what is wrong with it. -/
structure FieldFault where
  field : String
  problem : FieldProblem
  deriving DecidableEq, Repr

/-- Why a part of a policy or the settings cannot be built. -/
inductive Invalid
  | principal (fault : Principal.Fault)
  | entry (principal : Principal) (permission : Permission)
  | document (fault : Document.Fault)
  | fields (model : Model) (faults : List FieldFault)
  | noMember (kind : String)
  deriving DecidableEq, Repr

/-- The reason in words, the name of the part in front; faults of fields are
listed one after the other. -/
def Invalid.message : Invalid → String
  | .principal fault => Model.principal.name ++ ": " ++ fault.message
  | .entry holder permission =>
      Model.entry.name ++ ": Entry for " ++ holder.text ++ " must either grant or deny " ++
        permission.name
  | .document fault => Model.document.name ++ ": " ++ fault.message
  | .fields model faults =>
      String.intercalate "; " <| faults.map fun fault =>
        model.name ++ "." ++ fault.field ++ ": " ++ fault.problem.message
  | .noMember kind => "unhashable type: '" ++ kind ++ "'"

/-- The data of a field read as text. -/
def readText : Option Value → Except FieldProblem String
  | none => .error .missing
  | some (.scalar (.text content)) => .ok content
  | some _ => .error .notText

/-- The fault that a field has, if it has one. -/
def faultOf {α : Type} (field : String) : Except FieldProblem α → Option FieldFault
  | .ok _ => none
  | .error problem => some ⟨field, problem⟩

/-- A principal as the token that stands for it, or with any data as its kind and its
name. -/
inductive PrincipalDraft
  | token (text : String)
  | fields (kind name : Option Value)
  deriving Repr

namespace PrincipalDraft

/-- The data of the kind field read as a kind. -/
def readKind : Option Value → Except FieldProblem Principal.Kind
  | none => .error .missing
  | some (.scalar (.text word)) =>
      match Principal.Kind.ofWord? word with
      | some kind => .ok kind
      | none => .error .notKind
  | some _ => .error .notKind

/-- The data of the name field; a missing name is the empty one. -/
def readName : Option Value → Except FieldProblem String
  | none => .ok ""
  | field => readText field

/-- The principal of a draft. -/
def build : PrincipalDraft → Except Invalid Principal
  | .token text => (Principal.parse text).mapError .principal
  | .fields kind name =>
      match readKind kind, readName name with
      | .ok kind, .ok name => (Principal.ofKind kind name).mapError .principal
      | kind, name =>
          .error (.fields .principal ([faultOf "kind" kind, faultOf "name" name].filterMap id))

end PrincipalDraft

/-- An entry with a permission text or with two masks. -/
inductive EntryDraft
  | permissions (principal : PrincipalDraft) (text : String)
  | masks (principal : PrincipalDraft) (grants denies : Access)
  deriving Repr

/-- The entry of a draft; its principal is built first. -/
def EntryDraft.build : EntryDraft → Except Invalid Entry
  | .permissions holder text => do
      let principal ← holder.build
      pure (Entry.ofPermissions principal text)
  | .masks holder grants denies => do
      let principal ← holder.build
      (Entry.ofMasks principal grants denies).mapError (.entry principal)

/-- A section with any data as its name. -/
structure SectionDraft where
  name : Option Value
  entries : List EntryDraft
  deriving Repr

/-- The section of a draft; its entries are built first. -/
def SectionDraft.build (draft : SectionDraft) : Except Invalid Section := do
  let entries ← draft.entries.mapM EntryDraft.build
  match readText draft.name with
  | .ok name => .ok ⟨name, entries⟩
  | .error problem => .error (.fields .section [⟨"name", problem⟩])

/-- A group with any data as its name and as its members. -/
structure GroupDraft where
  name : Option Value
  members : List Value
  deriving Repr

/-- The kind of the first data that cannot be a member of a set. -/
def GroupDraft.noMember? (members : List Value) : Option String :=
  (members.find? fun member => match member with
    | .scalar _ => false
    | _ => true).map Value.kindName

/-- The scalars among some data. -/
def GroupDraft.scalarsIn (members : List Value) : List Scalar :=
  members.filterMap fun member => match member with
    | .scalar datum => some datum
    | _ => none

/-- The faults of the different members that are not text, by position. -/
def GroupDraft.memberFaults (members : List Scalar) : List FieldFault :=
  (Table.ofPairs (members.map fun member => (member, ()))).keys.zipIdx.filterMap
    fun (member, index) =>
      faultOf ("members." ++ toString index) (readText (some (.scalar member)))

/-- The group of a draft; its members are made a set first. -/
def GroupDraft.build (draft : GroupDraft) : Except Invalid Group :=
  match noMember? draft.members with
  | some kind => .error (.noMember kind)
  | none =>
      let members := scalarsIn draft.members
      match readText draft.name, memberFaults members with
      | .ok name, [] =>
          .ok ⟨name, .ofList (members.filterMap fun member =>
            (readText (some (.scalar member))).toOption)⟩
      | name, faults => .error (.fields .group ((faultOf "name" name).toList ++ faults))

/-- The document of some drafts: sections are built before groups, and both before
the document. -/
def Document.ofDrafts (sections : List SectionDraft) (groups : List GroupDraft) :
    Except Invalid Document := do
  let sections ← sections.mapM SectionDraft.build
  let groups ← groups.mapM GroupDraft.build
  (Document.ofParts sections groups).mapError .document

end PathPolicy
