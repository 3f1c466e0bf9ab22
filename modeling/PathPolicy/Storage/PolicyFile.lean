import PathPolicy.PolicyText.Parse
import PathPolicy.Snapshot
import PathPolicy.Storage.FileName
import PathPolicy.Storage.FileTree
import PathPolicy.Yaml.Layout
import PathPolicy.Yaml.Reading

/-!
# Loading and saving

The suffix of a file name decides whether the file is a snapshot or a policy text.
Both are UTF-8; a policy text is decoded as a whole and a snapshot piece by piece.  A
file that cannot be loaded is reported with its name and the reason, except for a
few faults that no caller expects: those end whatever the file was loaded for.  A document is
saved as the stream of its snapshot, which is ASCII, so its bytes are its characters.
-/

namespace PathPolicy

/-! ## Loading -/

/-- What is wrong with a policy file. -/
inductive LoadFault
  | file (fault : FileFault)
  | encoding (fault : Text.Utf8.Fault)
  | stream (fault : Yaml.Fault)
  | snapshot (fault : Snapshot.Fault)
  | document (fault : Document.Fault)
  deriving DecidableEq, Repr

/-- The fault of the file of a name in words. -/
def LoadFault.message (fault : LoadFault) (name : FileName) : String :=
  match fault with
  | .file fault => fault.message name.text
  | .encoding fault => fault.message
  | .stream fault => fault.message
  | .snapshot fault => fault.message
  | .document fault => (Invalid.document fault).message

/-- A policy file and why it cannot be loaded. -/
structure LoadError where
  name : FileName
  fault : LoadFault
  deriving DecidableEq, Repr

namespace LoadError

/-- The sentence that reports a file, with a reason if there is one to tell. -/
def report (name : FileName) (reason : Option String) : String :=
  let sentence := "Could not load policy from " ++ name.text ++ "."
  match reason with
  | none => sentence
  | some reason => if reason = "" then sentence else sentence ++ " " ++ reason

@[simp]
theorem report_none (name : FileName) :
    report name none = "Could not load policy from " ++ name.text ++ "." :=
  rfl

/-- An empty reason is no reason. -/
@[simp]
theorem report_empty (name : FileName) : report name (some "") = report name none :=
  rfl

/-- The error as it is reported. -/
def message (error : LoadError) : String :=
  report error.name (some (error.fault.message error.name))

/-- Whether a caller expects the error.  Some faults of a stream and of the data in it are not
expected, nor are a policy text that is no document and a name that no policy text can have. -/
def isReported (error : LoadError) : Bool :=
  match error.fault with
  | .snapshot fault => fault.isExpected
  | .stream fault => fault.isExpected
  | .document _ => false
  | .file .nullInName => error.name.isSnapshot
  | _ => true

end LoadError

/-- The document in the bytes of a snapshot; an empty stream and void data describe the
document without sections and groups. -/
def Document.ofSnapshotBytes (bytes : List UInt8) :
    Traced Snapshot.Skipped (Except LoadFault Document) :=
  match Yaml.read bytes with
  | .error fault => pure (.error (.stream fault))
  | .ok data =>
      let isVoid := (data.content data.root).isVoid
      (·.mapError LoadFault.snapshot) <$> Document.ofData (if isVoid then .empty else data)

/-- The document in the bytes of a policy text. -/
def Document.ofTextBytes (source : String) (bytes : List UInt8) :
    Traced PolicyText.Event (Except LoadFault Document) :=
  match Text.Utf8.decode bytes with
  | .error fault => pure (.error (.encoding fault))
  | .ok characters =>
      (·.mapError LoadFault.document) <$>
        PolicyText.parse source (String.ofList (Text.unifyNewlines characters))

/-- Loads the policy file of a name, of which the bytes are given unless it cannot be
read. -/
def loadContent (name : FileName) (content : Except FileFault (List UInt8)) :
    Traced Record (Except LoadError Document) :=
  (·.mapError (LoadError.mk name)) <$>
    match content with
    | .error fault => pure (.error (.file fault))
    | .ok bytes =>
        if name.isSnapshot then (Document.ofSnapshotBytes bytes).mapEvents Snapshot.Skipped.record
        else (Document.ofTextBytes name.text bytes).mapEvents PolicyText.Event.record

/-- Loads a policy file from a file tree. -/
def FileTree.load (tree : FileTree) (name : FileName) :
    Traced Record (Except LoadError Document) :=
  loadContent name (tree.read name.text)

/-- A file that cannot be read is reported without a record. -/
@[simp]
theorem loadContent_error (name : FileName) (fault : FileFault) :
    loadContent name (.error fault) = pure (.error ⟨name, .file fault⟩) :=
  rfl

/-! ## Saving -/

/-- The stream of a snapshot. -/
def Snapshot.stream (snapshot : Snapshot) : String :=
  Yaml.write snapshot.fields

/-- The file tree with the snapshot of a document in the file of a name. -/
def FileTree.save (tree : FileTree) (name : FileName) (document : Document) :
    Except FileFault FileTree :=
  tree.write name.text (Text.Utf8.encode document.toSnapshot.stream)

end PathPolicy
