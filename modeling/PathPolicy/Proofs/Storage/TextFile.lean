import PathPolicy.Proofs.PolicyText.Names
import PathPolicy.Proofs.Text.Lines
import PathPolicy.Proofs.Text.Utf8
import PathPolicy.Storage.PolicyFile

/-!
# Policy texts in files

A file that holds the bytes of a policy text is loaded as this text is read.  The bytes are
decoded to the characters that they encode, and although the newlines are unified before the text
is cut into lines, the lines and their numbers are those of the text as it was.
-/

namespace PathPolicy

theorem PolicyText.parse_congr {source first second : String}
    (sameLines : Text.splitLines first.toList = Text.splitLines second.toList) :
    parse source first = parse source second := by
  simp only [parse, readSections, linesOf, sameLines]

theorem Document.ofTextBytes_encode (source text : String) :
    Document.ofTextBytes source (Text.Utf8.encode text) =
      (·.mapError LoadFault.document) <$> PolicyText.parse source text := by
  have sameLines : Text.splitLines (String.ofList (Text.unifyNewlines text.toList)).toList =
      Text.splitLines text.toList := by
    rw [String.toList_ofList, Text.splitLines_unifyNewlines]
  rw [Document.ofTextBytes, Text.Utf8.decode_encode]
  dsimp only
  rw [PolicyText.parse_congr sameLines]

/-- A file that holds the bytes of a policy text, under a name without the suffix of a snapshot, is
loaded as the text is read: to the same document, with the same records. -/
theorem FileTree.load_encoded_text {tree : FileTree} {name : FileName} {text : String}
    (noYaml : name.suffix ≠ ".yaml") (noYml : name.suffix ≠ ".yml")
    (stored : tree.read name.text = .ok (Text.Utf8.encode text)) :
    ∃ document,
      (PolicyText.parse name.text text).value = .ok document ∧
      (tree.load name).value = .ok document ∧
      (tree.load name).events =
        (PolicyText.parse name.text text).events.map PolicyText.Event.record := by
  have noSnapshot : ¬ name.isSnapshot = true := by simp [FileName.isSnapshot, noYaml, noYml]
  obtain ⟨document, parsed⟩ := PolicyText.exists_parse_eq_ok name.text text
  refine ⟨document, parsed, ?_, ?_⟩
  · rw [FileTree.load, stored, loadContent]
    simp only [if_neg noSnapshot, Traced.value_map, Traced.value_mapEvents,
      Document.ofTextBytes_encode, parsed]
    rfl
  · rw [FileTree.load, stored, loadContent]
    simp only [if_neg noSnapshot, Traced.events_map, Traced.events_mapEvents,
      Document.ofTextBytes_encode]

namespace FileTree

/-- A policy text in which many characters end lines. -/
def brokenText : String :=
  "[/a]\r\r\nalice = r\n\r; é\x0bbob\u2028[/b]\rcarol: w\r\n"

/-- The policy text in a file. -/
def brokenFiles : FileTree :=
  [(["authz.txt"], .file (Text.Utf8.encode brokenText))]

/-- The line without a separator is the sixth one, in the file as in the text. -/
theorem brokenFiles_loaded :
    (FileName.ofText "authz.txt").suffix ≠ ".yaml" ∧ (FileName.ofText "authz.txt").suffix ≠ ".yml" ∧
      brokenFiles.read "authz.txt" = .ok (Text.Utf8.encode brokenText) ∧
      ∃ document,
        (PolicyText.parse "authz.txt" brokenText).value = .ok document ∧
        (brokenFiles.load (.ofText "authz.txt")).value = .ok document ∧
        (brokenFiles.load (.ofText "authz.txt")).events =
          [⟨.warning, .policyText, "authz.txt:6: malformed line skipped: 'bob'"⟩,
            ⟨.debug, .policyText, "authz.txt: parsed 2 sections, 0 groups"⟩] := by
  have named : (FileName.ofText "authz.txt").text = "authz.txt" := by decide +kernel
  have noYaml : (FileName.ofText "authz.txt").suffix ≠ ".yaml" := by decide +kernel
  have noYml : (FileName.ofText "authz.txt").suffix ≠ ".yml" := by decide +kernel
  have stored : brokenFiles.read (FileName.ofText "authz.txt").text =
      .ok (Text.Utf8.encode brokenText) := by decide +kernel
  obtain ⟨document, parsed, loaded, told⟩ := load_encoded_text noYaml noYml stored
  rw [named] at stored parsed told
  refine ⟨noYaml, noYml, stored, document, parsed, loaded, ?_⟩
  rw [told]
  decide +kernel

end FileTree

end PathPolicy
