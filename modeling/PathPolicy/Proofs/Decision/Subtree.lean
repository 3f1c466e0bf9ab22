import PathPolicy.Proofs.Decision.Grants

/-!
# Reading a whole subtree

Whoever may read a path recursively may read every path below it, and recursively as
well.  Two searches have to fit together for this: a section that decides about the lower
path but not about the upper one has a name that the search for vetoes at the upper path
has seen.
-/

namespace PathPolicy.Document

/-- A path below another one has the candidates of the upper path as its last ones, and
the names in front of them lie below the upper path. -/
theorem candidates_eq_append {lower upper : Path} (below : lower.IsBelow upper)
    (repository : String) :
    ∃ nearer, candidates repository lower = nearer ++ candidates repository upper ∧
      ∀ name ∈ nearer, IsNameBelow repository upper name := by
  obtain ⟨between, split, allBelow⟩ := below.lineage_eq_append
  refine ⟨(between.map Path.text).flatMap fun level => [repository ++ ":" ++ level, level], ?_, ?_⟩
  · rw [candidates, candidates, ← Path.map_text_lineage, ← Path.map_text_lineage, split,
      List.map_append, List.flatMap_append]
  · intro name member
    obtain ⟨spelled, isLevel, isName⟩ := List.mem_flatMap.1 member
    obtain ⟨level, isBetween, rfl⟩ := List.mem_map.1 isLevel
    have continues : upper.text.toList <+: level.text.toList :=
      (allBelow level isBetween).text_prefix_text
    simp only [List.mem_cons, List.not_mem_nil, or_false] at isName
    rcases isName with rfl | rfl
    · left
      simpa using continues
    · exact Or.inr continues

theorem IsNameBelow.of_isBelow {lower upper : Path} (below : lower.IsBelow upper)
    {repository name : String} (nameBelow : IsNameBelow repository lower name) :
    IsNameBelow repository upper name := by
  have continues : upper.text.toList <+: lower.text.toList := below.text_prefix_text
  rcases nameBelow with qualified | bare
  · refine Or.inl (List.IsPrefix.trans ?_ qualified)
    simpa using continues
  · exact Or.inr (continues.trans bare)

theorem anyGrants_of_not_denies {document : Document} {identity : Identity}
    {permission : Permission} {name : String}
    (undenied : ∀ part ∈ document.sections, part.name = name →
      ¬ document.Denies identity permission part)
    (occupied : document.grantsAt identity name ≠ []) :
    anyGrants permission (document.grantsAt identity name) = true := by
  cases found : document.section? name with
  | none => simp [grantsAt, found] at occupied
  | some part =>
      obtain ⟨member, called⟩ := section?_eq_some_iff.1 found
      subst called
      rw [grantsAt_of_mem identity member] at occupied ⊢
      by_contra refused
      exact undenied part member rfl ⟨occupied, Bool.not_eq_true _ ▸ refused⟩

/-- Reading a path recursively includes reading everything below it, recursively or
not. -/
theorem allows_read_below_of_allows_readRecursive {document : Document} {repository : String}
    {identity : Identity} {upper lower : String}
    (below : Path.segmentsOf upper <+: Path.segmentsOf lower)
    (allowed : document.allows repository (some upper) identity .readRecursive = true) :
    document.allows repository (some lower) identity .read = true ∧
      document.allows repository (some lower) identity .readRecursive = true := by
  have isBelow : (Path.ofText lower).IsBelow (.ofText upper) := below
  obtain ⟨⟨decidingName, decides, granted⟩, unvetoed⟩ :=
    (allows_some_iff document identity repository upper .readRecursive).1 allowed
  have undenied := unvetoed rfl
  obtain ⟨nearer, split, nearerBelow⟩ := candidates_eq_append isBelow repository
  have readable : ∃ name, document.firstSpeaking? identity
      (candidates repository (.ofText lower)) = some name ∧
        anyGrants .read (document.grantsAt identity name) = true := by
    rw [firstSpeaking?, split, List.find?_append]
    cases first : nearer.find? fun name => !(document.grantsAt identity name).isEmpty with
    | none => exact ⟨decidingName, decides, granted⟩
    | some name =>
        -- The section that decides lies between the two paths, so it was searched for a veto.
        have occupied : document.grantsAt identity name ≠ [] := by
          simpa using List.find?_some first
        have nameBelow := nearerBelow name (List.mem_of_find?_eq_some first)
        refine ⟨name, rfl, anyGrants_of_not_denies ?_ occupied⟩
        intro part member called
        exact undenied part member (called ▸ nameBelow)
  constructor
  · rw [allows_some_iff]
    exact ⟨readable, by simp⟩
  · rw [allows_some_iff]
    refine ⟨readable, fun _ part member nameBelow => ?_⟩
    exact undenied part member (nameBelow.of_isBelow isBelow)

/-- A policy in which alice may read everything below one path, and bob only up to a
section that is closed to all others. -/
def guarded : Document where
  sections :=
    [⟨"/a", [⟨.anyone, .only .read⟩]⟩,
      ⟨"repo:/a/b", [⟨.anyone, .none⟩, ⟨.user ⟨"alice", by decide⟩, .both⟩]⟩]
  groups := []
  unreserved := by decide
  sectionsDistinct := by decide
  groupsDistinct := List.nodup_nil

/-- Below the path that alice may read recursively lies one that another section decides. -/
theorem guarded_allows_alice_below :
    (Path.segmentsOf "a/" <+: Path.segmentsOf "/a//b/c" ∧
      guarded.allows "repo" (some "a/") (.named "alice") .readRecursive = true) ∧
    guarded.allows "repo" (some "/a//b/c") (.named "alice") .read = true ∧
      guarded.allows "repo" (some "/a//b/c") (.named "alice") .readRecursive = true := by
  have below : Path.segmentsOf "a/" <+: Path.segmentsOf "/a//b/c" := by decide
  have allowed : guarded.allows "repo" (some "a/") (.named "alice") .readRecursive = true := by
    decide +kernel
  exact ⟨⟨below, allowed⟩, allows_read_below_of_allows_readRecursive below allowed⟩

end PathPolicy.Document
