import PathPolicy.Proofs.FirstFault
import PathPolicy.Proofs.PolicyText.Tokens
import PathPolicy.Proofs.Storage.Escapes
import PathPolicy.Storage.FileTree
import PathPolicy.Storage.PolicyFile

/-!
# Documents that were saved

Writing a file only changes what is at its place, and nothing leads through there.  So the
name still leads to the same place, and what is read there is what was written.

The document of a policy text has nothing that a snapshot could lose: its principals are
spelled as they are read, a section has one entry for each, and members have no blanks
around them.  So its snapshot is read as the same document, and where the stream of the
snapshot is read as what was written, so is the file in which it was saved.
-/

namespace PathPolicy

/-! ## Files that were written -/

namespace FileTree

variable {tree : FileTree} {place : List String} {bytes : List UInt8}

/-- A directory stays one when a file is written at another place. -/
theorem node?_put_of_directory {other : List String} (differs : other ≠ place)
    (directory : tree.node? other = some .directory) :
    node? (Table.put place (.file bytes) tree) other = some .directory := by
  rw [node?] at directory ⊢
  by_cases surrounding : isSurrounding other = true
  · rw [if_pos surrounding]
  · rw [if_neg surrounding] at directory ⊢
    rw [Table.get?_put_of_ne differs]
    cases listed : tree.get? other with
    | some node =>
        rw [listed] at directory
        exact directory
    | none =>
        rw [listed] at directory
        have listedBelow : (tree.any fun entry => other.isPrefixOf entry.1) = true := by
          by_contra empty
          simp [empty] at directory
        obtain ⟨entry, member, above⟩ := List.any_eq_true.1 listedBelow
        have present : entry.1 ∈ (Table.put place (.file bytes) tree).keys := by
          rw [Table.keys_put]
          split
          · exact List.mem_map_of_mem member
          · exact List.mem_append_left _ (List.mem_map_of_mem member)
        obtain ⟨kept, keptMember, sameKey⟩ := List.mem_map.1 present
        have stillBelow : ((Table.put place (.file bytes) tree).any fun entry =>
            other.isPrefixOf entry.1) = true :=
          List.any_eq_true.2 ⟨kept, keptMember, by rw [sameKey]; exact above⟩
        simp [stillBelow]

theorem node?_put_self (noDirectory : tree.node? place ≠ some .directory) :
    node? (Table.put place (.file bytes) tree) place = some (.file bytes) := by
  have notSurrounding : ¬ isSurrounding place = true := by
    intro surrounding
    exact noDirectory (by rw [node?, if_pos surrounding])
  rw [node?, if_neg notSurrounding, Table.get?_put_self]

/-- The parts of a name lead to the same place when a file is written where no directory is. -/
theorem follow_put (noDirectory : tree.node? place ≠ some .directory) {start reached : List String}
    {parts : List String} (followed : tree.follow start parts = .ok reached) :
    follow (Table.put place (.file bytes) tree) start parts = .ok reached := by
  induction parts generalizing start with
  | nil => exact followed
  | cons part rest inductionHypothesis =>
      rw [follow] at followed
      cases found : tree.node? start with
      | none =>
          rw [found] at followed
          cases followed
      | some node =>
          cases node with
          | file content =>
              rw [found] at followed
              cases followed
          | directory =>
              rw [found] at followed
              have differs : start ≠ place := by
                rintro rfl
                exact noDirectory found
              rw [follow, node?_put_of_directory differs found]
              dsimp only at followed ⊢
              by_cases stays : part = "" ∨ part = "."
              · rw [if_pos stays] at followed ⊢
                exact inductionHypothesis followed
              · rw [if_neg stays] at followed ⊢
                by_cases rises : part = ".."
                · rw [if_pos rises] at followed ⊢
                  exact inductionHypothesis followed
                · rw [if_neg rises] at followed ⊢
                  by_cases long : longestPart < part.utf8ByteSize
                  · rw [if_pos long] at followed
                    cases followed
                  · rw [if_neg long] at followed ⊢
                    exact inductionHypothesis followed

/-- A name still leads to its place when a file is written where no directory is. -/
theorem place_put (noDirectory : tree.node? place ≠ some .directory) {reached : List String}
    {name : String} (led : tree.place name = .ok reached) :
    FileTree.place (Table.put place (.file bytes) tree) name = .ok reached := by
  rw [FileTree.place] at led ⊢
  split at led
  · cases led
  · rename_i named
    rw [if_neg named]
    split at led
    · cases led
    · rename_i noNull
      rw [if_neg noNull]
      split at led
      · cases led
      · rename_i short
        rw [if_neg short]
        exact follow_put noDirectory led

theorem read_of_write {saved : FileTree} {name : String}
    (written : tree.write name bytes = .ok saved) : saved.read name = .ok bytes := by
  obtain ⟨place, led, put⟩ := bind_eq_ok_iff.1 written
  split at put
  · cases put
  · rename_i noDirectory
    cases put
    have found : find (Table.put place (.file bytes) tree) name = .ok (.file bytes) := by
      refine bind_eq_ok_iff.2 ⟨place, place_put noDirectory led, ?_⟩
      rw [node?_put_self noDirectory]
    exact bind_eq_ok_iff.2 ⟨.file bytes, found, rfl⟩

end FileTree

/-! ## Streams of snapshots -/

/-- Whether the stream of a map is read as data that spell the map. -/
def Yaml.readsBack (entries : List (String × Text.Outline)) : Bool :=
  match Yaml.read (Text.Utf8.encode (Yaml.write entries)) with
  | .ok data => data.spells (.map entries) data.root
  | .error _ => false

theorem Yaml.readsBack_eq_true_iff {entries : List (String × Text.Outline)} :
    readsBack entries = true ↔
      ∃ data, Yaml.read (Text.Utf8.encode (Yaml.write entries)) = .ok data ∧
        data.spells (.map entries) data.root = true := by
  unfold readsBack
  generalize Yaml.read (Text.Utf8.encode (Yaml.write entries)) = outcome
  cases outcome with
  | ok data => simp
  | error fault => simp

theorem Snapshot.isVoid_eq_false_of_spells {snapshot : Snapshot} {data : Data}
    (spelled : data.spells (.map snapshot.fields) data.root = true) :
    (data.content data.root).isVoid = false := by
  obtain ⟨pairs, isMap, inOrder⟩ := Data.spells_map_iff.1 spelled
  rw [isMap]
  cases inOrder with
  | cons _ _ => rfl

namespace Document

variable {document : Document}

theorem load_of_save (spelledOut : document.IsSpelledOut)
    (distinct : document.HasDistinctPrincipals) {tree saved : FileTree} {name : FileName}
    (isSnapshot : name.isSnapshot = true) (written : tree.save name document = .ok saved)
    (readsBack : Yaml.readsBack document.toSnapshot.fields = true) :
    saved.load name = pure (.ok document) := by
  obtain ⟨data, read, spelled⟩ := Yaml.readsBack_eq_true_iff.1 readsBack
  have readAgain : saved.read name.text =
      .ok (Text.Utf8.encode (Yaml.write document.toSnapshot.fields)) :=
    FileTree.read_of_write written
  rw [FileTree.load, readAgain, loadContent]
  simp only [isSnapshot, if_true]
  rw [ofSnapshotBytes_of_read read, Snapshot.isVoid_eq_false_of_spells spelled,
    if_neg Bool.false_ne_true, ofData_of_spells spelledOut distinct spelled]
  rfl

end Document

namespace PolicyText

/-- Every policy text describes a document.  Its snapshot is read as the same document and no
entry is left out, and so is a snapshot file in which the document was saved, provided that
the stream of that file is read as what was written. -/
theorem parse_snapshot_reads_back (source text : String) :
    ∃ document, (parse source text).value = .ok document ∧
      Document.ofData (.ofValue document.toSnapshot.toValue) = pure (.ok document) ∧
      ∀ (tree saved : FileTree) (name : FileName), name.isSnapshot = true →
        tree.save name document = .ok saved →
        Yaml.readsBack document.toSnapshot.fields = true →
        saved.load name = pure (.ok document) := by
  obtain ⟨document, parsed⟩ := exists_parse_eq_ok source text
  have spelledOut := isSpelledOut_of_parse parsed
  have distinct := hasDistinctPrincipals_of_parse parsed
  refine ⟨document, parsed, ?_, ?_⟩
  · exact Document.ofData_of_spells spelledOut distinct (Data.spells_ofOutline _ _)
  · intro tree saved name isSnapshot written readsBack
    exact Document.load_of_save spelledOut distinct isSnapshot written readsBack

/-- A policy text with a group whose name begins with a blank and an entry that grants
nothing. -/
def spacedText : String :=
  "[groups]\ndevs = bob, alice,\n[/a]\n@devs = rw\n@ x =\n* : r\n"

/-- The document of this text. -/
def spacedDocument : Document where
  sections := [⟨"/a", [⟨.group ⟨"devs", by decide⟩, .both⟩, ⟨.group ⟨" x", by decide⟩, .none⟩,
    ⟨.anyone, .only .read⟩]⟩]
  groups := [⟨"devs", .ofList ["alice", "bob"]⟩]
  unreserved := by decide
  sectionsDistinct := by decide
  groupsDistinct := by decide

/-- The directory with the file in which this document was saved. -/
def spacedTree : FileTree :=
  [(["p.yaml"], .file (Text.Utf8.encode spacedDocument.toSnapshot.stream))]

/-- The document of this text is loaded from the file in which it was saved. -/
theorem spacedDocument_loaded_again :
    (parse "policy" spacedText).value = .ok spacedDocument ∧
      FileTree.save [] (.ofText "p.yaml") spacedDocument = .ok spacedTree ∧
      spacedTree.load (.ofText "p.yaml") = pure (.ok spacedDocument) := by
  have described : (parse "policy" spacedText).value = .ok spacedDocument := by decide +kernel
  have written : FileTree.save [] (.ofText "p.yaml") spacedDocument = .ok spacedTree := by
    decide +kernel
  have readsBack : Yaml.readsBack spacedDocument.toSnapshot.fields = true := by decide +kernel
  obtain ⟨document, parsed, _, loads⟩ := parse_snapshot_reads_back "policy" spacedText
  have same : document = spacedDocument := Except.ok.inj (parsed.symm.trans described)
  rw [same] at loads
  exact ⟨described, written, loads [] spacedTree (.ofText "p.yaml") (by decide) written readsBack⟩

end PolicyText

end PathPolicy
