import PathPolicy.Proofs.PolicyText.Leaks
import PathPolicy.Proofs.Table.Merge

/-!
# Policy texts one after the other

Where a text goes on with a line that begins with a bracket, nothing of what was open before has a
say any more: neither the section nor the key.  So the sections of two texts, the second of which
begins with a bracket, are those of the first, merged with those of the second, and a text that is
cut into such blocks gathers what is in its blocks, wherever they stand.
-/

namespace PathPolicy.PolicyText

/-! ## Merged sections -/

namespace RawSections

/-- The sections with those of a later text: sections and keys in the order of their first
appearance, and of a key that both texts have the later value. -/
def mergedWith (sections later : RawSections) : RawSections :=
  Table.mergeWith Table.updatedBy sections later

variable {sections later : RawSections}

theorem entries_mergedWith (sections later : RawSections) (name : String) :
    (sections.mergedWith later).entries name =
      (sections.entries name).updatedBy (later.entries name) := by
  rw [entries, mergedWith, Table.get?_mergeWith, entries, entries]
  cases sections.get? name with
  | none =>
      cases later.get? name with
      | none => rfl
      | some raw => exact (Table.nil_mergeWith _ raw).symm
  | some old =>
      cases later.get? name with
      | none => exact (Table.mergeWith_nil _ old).symm
      | some raw => rfl

theorem merge_get?_eq (sections : RawSections) (name : String) (raw : Table String String) :
    Option.merge Table.updatedBy (sections.get? name) (some raw) =
      some ((sections.entries name).updatedBy raw) := by
  rw [entries]
  cases sections.get? name with
  | none => exact congrArg some (Table.nil_mergeWith _ raw).symm
  | some old => rfl

theorem openSection_mergedWith (distinct : sections.HasDistinctKeys)
    (laterDistinct : later.HasDistinctKeys) (name : String) :
    (sections.mergedWith later).openSection name =
      sections.mergedWith (later.openSection name) := by
  rw [openSection, entries_mergedWith]
  exact Table.put_mergeWith _ distinct.names laterDistinct.names (merge_get?_eq sections name _)

theorem putEntry_mergedWith (distinct : sections.HasDistinctKeys)
    (laterDistinct : later.HasDistinctKeys) (name key value : String) :
    (sections.mergedWith later).putEntry name key value =
      sections.mergedWith (later.putEntry name key value) := by
  have newest : Option.merge (fun _ newest => newest) ((sections.entries name).get? key)
      (some value) = some value := by
    cases (sections.entries name).get? key <;> rfl
  have inSection : ((sections.entries name).updatedBy (later.entries name)).put key value =
      (sections.entries name).updatedBy ((later.entries name).put key value) :=
    Table.put_mergeWith _ (distinct.entries name) (laterDistinct.entries name) newest
  rw [putEntry, entries_mergedWith, inSection]
  exact Table.put_mergeWith _ distinct.names laterDistinct.names (merge_get?_eq sections name _)

theorem extendEntry_mergedWith (distinct : sections.HasDistinctKeys)
    (laterDistinct : later.HasDistinctKeys) {name key value : String}
    (found : (later.entries name).get? key = some value) (continuation : String) :
    (sections.mergedWith later).extendEntry name key continuation =
      sections.mergedWith (later.extendEntry name key continuation) := by
  have sameValue : ((sections.mergedWith later).entries name).get? key = some value := by
    rw [entries_mergedWith, Table.get?_updatedBy, found, Option.some_or]
  rw [extendEntry, sameValue, extendEntry, found]
  exact putEntry_mergedWith distinct laterDistinct name key _

end RawSections

/-! ## Readings behind other sections -/

namespace Reading

variable {reading : Reading} {earlier : RawSections}

/-- A reading that has the sections of an earlier text in front. -/
def behind (reading : Reading) (earlier : RawSections) : Reading :=
  ⟨earlier.mergedWith reading.sections, reading.current, reading.openKey⟩

/-- A step does the same with other sections in front, whatever the line is. -/
theorem step_behind (anchored : reading.IsAnchored) (distinct : reading.sections.HasDistinctKeys)
    (earlierDistinct : earlier.HasDistinctKeys) (line : Line) :
    ((reading.behind earlier).step line).1 = (reading.step line).1.behind earlier := by
  cases line with
  | continuation text =>
      cases isCurrent : reading.current with
      | none => simp [step, behind, isCurrent]
      | some name =>
          cases isOpen : reading.openKey with
          | none => simp [step, behind, isCurrent, isOpen]
          | some key =>
              rcases anchored.exists_get? isCurrent isOpen with ⟨value, found⟩
              simp only [step, behind, isCurrent, isOpen]
              rw [RawSections.extendEntry_mergedWith earlierDistinct distinct found]
  | header name =>
      simp only [step, behind]
      rw [RawSections.openSection_mergedWith earlierDistinct distinct]
  | entry key value =>
      cases isCurrent : reading.current with
      | none => simp [step, behind, isCurrent]
      | some name =>
          simp only [step, behind, isCurrent]
          rw [RawSections.putEntry_mergedWith earlierDistinct distinct]
  | _ => rfl

/-- Any lines lead to the same with other sections in front. -/
theorem reached_behind (anchored : reading.IsAnchored)
    (distinct : reading.sections.HasDistinctKeys) (earlierDistinct : earlier.HasDistinctKeys)
    (lines : List Line) :
    (reading.behind earlier).reached lines = (reading.reached lines).behind earlier := by
  induction lines generalizing reading with
  | nil => rfl
  | cons line rest inductionHypothesis =>
      rw [reached_cons, reached_cons, step_behind anchored distinct earlierDistinct,
        inductionHypothesis (step_isAnchored reading line anchored)
          (step_hasDistinctKeys reading line distinct)]

theorem step_of_bracket {line : List Char} (bracket : line.head? = some '[') :
    (reading.step (.ofText line)).1 = ((closed reading.sections).step (.ofText line)).1 := by
  rcases Line.head?_eq_bracket_iff.1 bracket with broken | ⟨name, header⟩
  · rw [broken]
    rfl
  · rw [header]
    rfl

end Reading

/-! ## Joined texts -/

/-- The first line of a text begins with a bracket in the first column. -/
def BeginsWithBracket (text : String) : Prop :=
  ∃ line ∈ (Text.splitLines text.toList).head?, line.head? = some '['

/-- The first character of the first line is the first of the text. -/
theorem BeginsWithBracket.head?_toList {text : String} (begins : BeginsWithBracket text) :
    text.toList.head? = some '[' := by
  rcases begins with ⟨line, isFirst, bracket⟩
  cases characters : text.toList with
  | nil =>
      rw [characters] at isFirst
      cases isFirst
  | cons c rest =>
      rw [characters, Text.splitLines, Text.splitLinesAfter] at isFirst
      split at isFirst
      · simp_all
      · split at isFirst
        · cases isFirst
          cases bracket
        · split at isFirst
          · cases isFirst
            exact bracket
          · cases isFirst
            exact bracket

/-- The lines of a text that begins with a bracket lead to its sections, behind whatever sections
were read before. -/
theorem reached_of_beginsWithBracket {text : String} (begins : BeginsWithBracket text)
    {reading : Reading} (distinct : reading.sections.HasDistinctKeys) :
    reading.reached (linesOf text) =
      (readingOf (Text.splitLines text.toList)).behind reading.sections := by
  rcases begins with ⟨line, isFirst, bracket⟩
  rcases List.head?_eq_some_iff.1 isFirst with ⟨rest, lines⟩
  have nothingRead : Reading.start.behind reading.sections = .closed reading.sections := by
    rw [Reading.behind, Reading.start, RawSections.mergedWith, Table.mergeWith_nil]
    rfl
  calc reading.reached (linesOf text)
      = (Reading.closed reading.sections).reached (linesOf text) := by
        rw [linesOf, lines, List.map_cons, Reading.reached_cons, Reading.reached_cons,
          Reading.step_of_bracket bracket]
    _ = (Reading.start.behind reading.sections).reached (linesOf text) := by rw [nothingRead]
    _ = _ := Reading.reached_behind Reading.isAnchored_start .start distinct _

/-- The sections of two texts with the end of a line between them are those of the first, merged
with those of the second if this begins with a bracket. -/
theorem readSections_append {newline first second : String}
    (isLineEnd : Text.IsLineEnd newline.toList) (begins : BeginsWithBracket second) :
    (readSections (first ++ newline ++ second)).1 =
      (readSections first).1.mergedWith (readSections second).1 := by
  have noFeed : second.toList.head? ≠ some '\n' := by simp [begins.head?_toList]
  rcases Text.exists_splitLines_append_lineEnd isLineEnd noFeed first.toList false with
    ⟨gap, empty, lines⟩
  have sameSections : ((readingOf (Text.splitLines first.toList)).reached
      (gap.map Line.ofText)).sections = (readSections first).1 := by
    rw [(Reading.reached_empty _ empty).1, readSections_fst]
  have distinct := readSections_hasDistinctKeys first
  rw [← sameSections] at distinct
  rw [readSections_fst (first ++ newline ++ second), String.toList_append, String.toList_append,
    Text.splitLines, lines, ← Text.splitLines, readingOf_append, readingOf_append, ← linesOf,
    reached_of_beginsWithBracket begins distinct, sameSections, readSections_fst second]
  rfl

/-! ## Texts of blocks -/

/-- A text of blocks, with the end of a line between one block and the next. -/
def joinBlocks (newline first : String) (blocks : List String) : String :=
  blocks.foldl (fun text block => text ++ newline ++ block) first

theorem joinBlocks_concat (newline first : String) (blocks : List String) (last : String) :
    joinBlocks newline first (blocks ++ [last]) =
      joinBlocks newline first blocks ++ newline ++ last := by
  rw [joinBlocks, List.foldl_append]
  rfl

/-- Sections gather what is in some parts.  They are named in the order in which the parts first
name them, and so are the keys in each of them; the value of a key is that of the last part that
has the key in the section. -/
structure RawSections.Gathers (parts : List RawSections) (whole : RawSections) : Prop where
  names : whole.keys = (parts.flatMap Table.keys).eraseDups
  keys : ∀ name, (whole.entries name).keys =
    (parts.flatMap fun part => (part.entries name).keys).eraseDups
  values : ∀ name key, (whole.entries name).get? key =
    parts.reverse.findSome? fun part => (part.entries name).get? key

namespace RawSections.Gathers

theorem singleton {part : RawSections} (distinct : part.HasDistinctKeys) : Gathers [part] part := by
  refine ⟨?_, fun name => ?_, fun name key => ?_⟩
  · rw [List.flatMap_singleton, Table.eraseDups_eq_self distinct.names]
  · rw [List.flatMap_singleton, Table.eraseDups_eq_self (distinct.entries name)]
  · simp

/-- One more part is gathered when it is merged into the whole. -/
theorem concat {parts : List RawSections} {whole last : RawSections} (gathers : Gathers parts whole)
    (distinct : last.HasDistinctKeys) : Gathers (parts ++ [last]) (whole.mergedWith last) := by
  refine ⟨?_, fun name => ?_, fun name key => ?_⟩
  · rw [List.flatMap_append, List.flatMap_singleton,
      Table.eraseDups_append_of_nodup distinct.names, ← gathers.names, mergedWith,
      Table.keys_mergeWith]
  · rw [List.flatMap_append, List.flatMap_singleton,
      Table.eraseDups_append_of_nodup (distinct.entries name), ← gathers.keys, entries_mergedWith,
      Table.updatedBy, Table.keys_mergeWith]
  · rw [entries_mergedWith, Table.get?_updatedBy, gathers.values, List.reverse_append,
      List.reverse_singleton, List.singleton_append, List.findSome?_cons]
    cases (last.entries name).get? key <;> rfl

end RawSections.Gathers

theorem gathers_joinBlocks {newline first : String} (isLineEnd : Text.IsLineEnd newline.toList)
    {blocks : List String} (begin : ∀ block ∈ blocks, BeginsWithBracket block) :
    RawSections.Gathers ((first :: blocks).map fun block => (readSections block).1)
      (readSections (joinBlocks newline first blocks)).1 := by
  induction blocks using List.reverseRecOn with
  | nil => exact .singleton (readSections_hasDistinctKeys first)
  | append_singleton earlier last inductionHypothesis =>
      rw [List.forall_mem_append, List.forall_mem_singleton] at begin
      rcases begin with ⟨earlierBegin, lastBegins⟩
      rw [joinBlocks_concat, readSections_append isLineEnd lastBegins, ← List.cons_append,
        List.map_append]
      exact (inductionHypothesis earlierBegin).concat (readSections_hasDistinctKeys last)

/-- Texts one after the other merge, whatever ends the line between them, if the later one begins
with a bracket: sections and keys stand where they appear first, and of a key that both texts have
in a section the later value is taken whole.  So a text gathers what is in its blocks, however the
sections and their keys are spread over these. -/
theorem joined_texts_merge {newline : String} (isLineEnd : Text.IsLineEnd newline.toList) :
    (∀ first second : String, BeginsWithBracket second →
      (readSections (first ++ newline ++ second)).1 =
        (readSections first).1.mergedWith (readSections second).1) ∧
      ∀ (first : String) (blocks : List String), (∀ block ∈ blocks, BeginsWithBracket block) →
        RawSections.Gathers ((first :: blocks).map fun block => (readSections block).1)
          (readSections (joinBlocks newline first blocks)).1 := by
  constructor
  · intro first second begins
    exact readSections_append isLineEnd begins
  · intro first blocks begin
    exact gathers_joinBlocks isLineEnd begin

/-- A section that stands in three blocks, the first of which ends in the middle of an entry. -/
theorem threeBlocks_merge :
    Text.IsLineEnd "\n".toList ∧ BeginsWithBracket "[/b\n  r\n[/a]\nalice = rw" ∧
      BeginsWithBracket "[/c]\n[/a]\nbob =" ∧
      (readSections ("[/a]\nalice = r\nbob = r" ++ "\n" ++ "[/b\n  r\n[/a]\nalice = rw")).1 =
        (readSections "[/a]\nalice = r\nbob = r").1.mergedWith
          (readSections "[/b\n  r\n[/a]\nalice = rw").1 ∧
      RawSections.Gathers
        [(readSections "[/a]\nalice = r\nbob = r").1, (readSections "[/b\n  r\n[/a]\nalice = rw").1,
          (readSections "[/c]\n[/a]\nbob =").1]
        [("/a", [("alice", "rw"), ("bob", "")]), ("/c", [])] := by
  have isLineEnd : Text.IsLineEnd "\n".toList := Or.inr ⟨'\n', rfl, rfl⟩
  have second : BeginsWithBracket "[/b\n  r\n[/a]\nalice = rw" := ⟨_, rfl, rfl⟩
  have third : BeginsWithBracket "[/c]\n[/a]\nbob =" := ⟨_, rfl, rfl⟩
  have whole : (readSections (joinBlocks "\n" "[/a]\nalice = r\nbob = r"
      ["[/b\n  r\n[/a]\nalice = rw", "[/c]\n[/a]\nbob ="])).1 =
        [("/a", [("alice", "rw"), ("bob", "")]), ("/c", [])] := by decide +kernel
  have begin : ∀ block ∈ ["[/b\n  r\n[/a]\nalice = rw", "[/c]\n[/a]\nbob ="],
      BeginsWithBracket block := by
    simp [second, third]
  refine ⟨isLineEnd, second, third, (joined_texts_merge isLineEnd).1 _ _ second, ?_⟩
  rw [← whole]
  exact (joined_texts_merge isLineEnd).2 _ _ begin

end PathPolicy.PolicyText
