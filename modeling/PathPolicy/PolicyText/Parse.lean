import PathPolicy.Draft
import PathPolicy.Log
import PathPolicy.Table
import PathPolicy.Text.Pieces

/-!
# Reading a policy

What a line of a policy is depends on that line only.  A line without a visible character is
blank; one whose first visible character is a number sign or a semicolon is a comment; any
other indented line continues an entry.  What is left is a section header if it begins with a
bracket, and an entry if it has a key in front of its first colon or equals sign.

The lines of a policy give a table of sections, each a table from keys to values.  Headers
with one name open one section, and a key that is written again keeps its place and takes the
new value.  A line that does not fit is skipped with a warning that carries its number.  The
raw section of the reserved name defines the groups; all others are sections of the document.
An entry whose key is no principal is skipped with a warning.
-/

namespace PathPolicy.PolicyText

/-! ## Lines -/

/-- A line of a policy; texts in it are trimmed. -/
inductive Line
  | blank
  | comment
  | continuation (text : List Char)
  | header (name : List Char)
  | brokenHeader
  | entry (key value : List Char)
  | malformed (text : List Char)
  deriving DecidableEq, Repr

namespace Line

/-- A comment begins with one of two characters. -/
def opensComment (c : Char) : Bool :=
  c == '#' || c == ';'

/-- One of two characters separates the key of an entry from its value. -/
def isSeparator (c : Char) : Bool :=
  c == ':' || c == '='

/-- Reads what follows an opening bracket: a name, which must not be empty, and the
closing bracket, which must be the last character. -/
def ofBracketed (characters : List Char) : Line :=
  match Text.breakFirst (· == ']') characters with
  | some (name, []) => if Text.trim name = [] then .brokenHeader else .header (Text.trim name)
  | _ => .brokenHeader

/-- Reads a trimmed line that is an entry if it is anything. -/
def ofUnbracketed (characters : List Char) : Line :=
  match Text.breakFirst isSeparator characters with
  | some (key, value) =>
      if key = [] then .malformed characters else .entry (Text.trim key) (Text.trim value)
  | none => .malformed characters

/-- A line is indented when it begins with a blank. -/
def isIndented (line : List Char) : Bool :=
  line.head?.any Text.isBlank

/-- What a line is. -/
def ofText (line : List Char) : Line :=
  match Text.trim line with
  | [] => .blank
  | first :: rest =>
      if opensComment first then .comment
      else if isIndented line then .continuation (first :: rest)
      else if first = '[' then ofBracketed rest
      else ofUnbracketed (first :: rest)

@[simp]
theorem ofText_nil : ofText [] = .blank :=
  rfl

end Line

/-! ## Raw sections -/

/-- Sections by name, each with its values by key. -/
abbrev RawSections := Table String (Table String String)

namespace RawSections

/-- The entries of a section; one that is not there has none. -/
def entries (sections : RawSections) (name : String) : Table String String :=
  (sections.get? name).getD []

/-- Makes sure that a section is there. -/
def openSection (sections : RawSections) (name : String) : RawSections :=
  sections.put name (sections.entries name)

/-- Puts a value under a key of a section. -/
def putEntry (sections : RawSections) (name key value : String) : RawSections :=
  sections.put name ((sections.entries name).put key value)

/-- A value and its continuation, with one space between them. -/
def joinValue (value continuation : String) : String :=
  Text.trimmed (value ++ " " ++ continuation)

/-- Appends a continuation to the value under a key of a section. -/
def extendEntry (sections : RawSections) (name key continuation : String) : RawSections :=
  sections.putEntry name key
    (joinValue (((sections.entries name).get? key).getD "") continuation)

end RawSections

/-- Why a line is skipped. -/
inductive LineFault
  | strayContinuation
  | brokenHeader
  | malformed (text : String)
  | outsideSection
  deriving DecidableEq, Repr

/-- A line that was skipped, counted from one, and the reason. -/
structure LineWarning where
  line : Nat
  fault : LineFault
  deriving DecidableEq, Repr

/-- What has been read so far: the sections, the section that is open and the key
whose value a continuation would extend. -/
structure Reading where
  sections : RawSections
  current : Option String
  openKey : Option String
  deriving DecidableEq, Repr

namespace Reading

/-- Nothing has been read. -/
def start : Reading :=
  ⟨[], none, none⟩

/-- The reading after one more line, and what is wrong with that line. -/
def step (reading : Reading) : Line → Reading × Option LineFault
  | .blank => (⟨reading.sections, reading.current, none⟩, none)
  | .comment => (reading, none)
  | .continuation text =>
      match reading.current, reading.openKey with
      | some name, some key =>
          (⟨reading.sections.extendEntry name key (String.ofList text), some name, some key⟩, none)
      | _, _ => (reading, some .strayContinuation)
  | .header name =>
      let name := String.ofList name
      (⟨reading.sections.openSection name, some name, none⟩, none)
  | .brokenHeader => (⟨reading.sections, none, none⟩, some .brokenHeader)
  | .malformed text =>
      (⟨reading.sections, reading.current, none⟩, some (.malformed (String.ofList text)))
  | .entry key value =>
      match reading.current with
      | some name =>
          let key := String.ofList key
          (⟨reading.sections.putEntry name key (String.ofList value), some name, some key⟩, none)
      | none => (⟨reading.sections, none, none⟩, some .outsideSection)

/-- The reading after some lines, the first of which has a number, and the
warnings about them. -/
def run (reading : Reading) (number : Nat) : List Line → Reading × List LineWarning
  | [] => (reading, [])
  | line :: rest =>
      let (reached, fault?) := reading.step line
      let (final, warnings) := reached.run (number + 1) rest
      (final, (fault?.map (LineWarning.mk number)).toList ++ warnings)

end Reading

/-- The lines of a policy. -/
def linesOf (text : String) : List Line :=
  (Text.splitLines text.toList).map Line.ofText

/-- The raw sections of a policy and the warnings about its lines. -/
def readSections (text : String) : RawSections × List LineWarning :=
  let (reading, warnings) := Reading.start.run 1 (linesOf text)
  (reading.sections, warnings)

/-! ## Documents -/

/-- What happens while a policy is read from a source. -/
inductive Event
  | lineSkipped (source : String) (warning : LineWarning)
  | entrySkipped (source token sectionName : String) (fault : Principal.Fault)
  | finished (source : String) (sections groups : Nat)
  deriving DecidableEq, Repr

/-- The reason for skipping a line, in words. -/
def LineFault.message : LineFault → String
  | .strayContinuation => "stray continuation line skipped"
  | .brokenHeader => "malformed section header skipped"
  | .malformed text => "malformed line skipped: " ++ Text.quoted text
  | .outsideSection => "entry outside of any section skipped"

/-- The record of an event. -/
def Event.record : Event → Record
  | .lineSkipped source warning =>
      ⟨.warning, .policyText,
        source ++ ":" ++ toString warning.line ++ ": " ++ warning.fault.message⟩
  | .entrySkipped source token sectionName fault =>
      ⟨.warning, .policyText,
        source ++ ": skipping entry '" ++ token ++ "' in [" ++ sectionName ++ "]: " ++
          (Invalid.principal fault).message⟩
  | .finished source sections groups =>
      ⟨.debug, .policyText,
        source ++ ": parsed " ++ toString sections ++ " sections, " ++ toString groups ++
          " groups"⟩

/-- The entries of a raw section. -/
def readEntries (source sectionName : String) : Table String String → Traced Event (List Entry)
  | [] => pure []
  | (token, permissions) :: rest =>
      match Entry.parse token permissions with
      | .ok entry => (entry :: ·) <$> readEntries source sectionName rest
      | .error fault => do
          Traced.note (.entrySkipped source token sectionName fault)
          readEntries source sectionName rest

/-- The sections of a table of raw sections. -/
def readAllEntries (source : String) : RawSections → Traced Event (List Section)
  | [] => pure []
  | (name, raw) :: rest => do
      let entries ← readEntries source name raw
      let sections ← readAllEntries source rest
      pure (⟨name, entries⟩ :: sections)

/-- The groups that the raw sections define. -/
def groupsOf (raw : RawSections) : List Group :=
  (raw.entries groupsName).map fun (name, members) => ⟨name, .ofCommaSeparated members⟩

/-- The document that a policy text describes. -/
def parse (source text : String) : Traced Event (Except Document.Fault Document) := do
  let (raw, warnings) := readSections text
  Traced.mk (warnings.map (Event.lineSkipped source)) ()
  let sections ← readAllEntries source (raw.remove groupsName)
  match Document.ofParts sections (groupsOf raw) with
  | .error fault => pure (.error fault)
  | .ok document => do
      Traced.note (.finished source document.sections.length document.groups.length)
      pure (.ok document)

end PathPolicy.PolicyText
