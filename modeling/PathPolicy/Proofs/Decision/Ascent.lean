import PathPolicy.Proofs.Decision.Grants
import PathPolicy.Proofs.Path.Ancestors

/-!
# The way up

A search for the nearest section with a word goes up round by round, and nothing but the spelling
of the level tells it where to go on and where to stop.  It comes to an end all the same: each
round takes one segment away, and the root is the only level without one.  So it asks every
ancestor of the path at most once, and what it finds is what the path is resolved by.
-/

namespace PathPolicy

/-- Where a search on its way up has come: to a level that it has not asked yet, or to its end. -/
inductive Ascent
  | level (spelled : String)
  | ended (resolution : Resolution)
  deriving DecidableEq, Repr

theorem Verdict.hasDecision_none (verdict : Verdict) : verdict.hasDecision .none = false := by
  simp [hasDecision, Access.meets, Access.none]

theorem Traced.ext {ε α : Type} {left right : Traced ε α}
    (sameEvents : left.events = right.events) (sameValue : left.value = right.value) :
    left = right := by
  cases left
  cases right
  cases sameEvents
  cases sameValue
  rfl

namespace Document

open Traced

variable (document : Document) (repository : String) (identity : Identity) (access : Access)

/-- One round of a search on its way up.  The sections of the level are asked; a word of theirs
ends the search, and so does silence at the root.  From any other level the search goes on to the
parent. -/
def ascend : Ascent → Traced Step Ascent
  | .ended resolution => pure (.ended resolution)
  | .level spelled => do
      match ← document.resolveAt repository spelled identity access with
      | .silent => pure (if spelled = "/" then .ended .silent else .level (Path.parentText spelled))
      | resolution => pure (.ended resolution)

/-- Some rounds of a search on its way up. -/
def ascendBy : Nat → Ascent → Traced Step Ascent
  | 0, ascent => pure ascent
  | rounds + 1, ascent => do
      let reached ← ascend document repository identity access ascent
      ascendBy rounds reached

/-- A search that begins at a path ends after some rounds.  Each of them asks one level, in the
order of the ancestors; the steps and the answer are those of climbing, and there is no word only
where the root has been asked. -/
structure EndsAfter (path : Path) (rounds : Nat) : Prop where
  inTurn : ∀ earlier < rounds,
    (document.ascendBy repository identity access earlier (.level path.text)).value =
      .level (Path.parentText^[earlier] path.text)
  ended : document.ascendBy repository identity access rounds (.level path.text) =
    Ascent.ended <$> document.climb repository identity access path.lineage
  toRoot : (document.climb repository identity access path.lineage).value = .silent →
    rounds = path.segments.length + 1

variable {document repository identity access}

/-! ## One round -/

/-- A level with a word ends the search, and silence does at the root. -/
theorem ascend_of_last {spelled : String}
    (last : (document.resolveAt repository spelled identity access).value = .silent →
      spelled = "/") :
    document.ascend repository identity access (.level spelled) =
      Ascent.ended <$> document.resolveAt repository spelled identity access := by
  rw [ascend]
  cases asked : document.resolveAt repository spelled identity access with
  | mk steps resolution =>
      cases resolution with
      | decided name allowed => rfl
      | pathUnknown => rfl
      | silent =>
          have isRoot := last (by rw [asked])
          rw [isRoot]
          rfl

theorem ascend_of_silent {path : Path} (below : path.segments ≠ [])
    (silent : (document.resolveAt repository path.text identity access).value = .silent) :
    document.ascend repository identity access (.level path.text) =
      (fun _ => .level path.parent.text) <$>
        document.resolveAt repository path.text identity access := by
  have notRoot : path.text ≠ "/" := mt Path.text_eq_slash_iff.1 below
  rw [ascend]
  cases asked : document.resolveAt repository path.text identity access with
  | mk steps resolution =>
      rw [asked] at silent
      cases silent
      rw [← Path.parentText_text]
      simp only [bind, andThen, if_neg notRoot]
      rfl

/-- Climbing stops at a level with a word, and at the last level. -/
theorem climb_cons_of_last {level : Path} {above : List Path}
    (last : (document.resolveAt repository level.text identity access).value = .silent →
      above = []) :
    document.climb repository identity access (level :: above) =
      document.resolveAt repository level.text identity access := by
  rw [climb]
  cases asked : document.resolveAt repository level.text identity access with
  | mk steps resolution =>
      cases resolution with
      | decided name allowed => exact Traced.ext (List.append_nil steps) rfl
      | pathUnknown => exact Traced.ext (List.append_nil steps) rfl
      | silent =>
          have noneAbove := last (by rw [asked])
          rw [noneAbove]
          exact Traced.ext (List.append_nil steps) rfl

/-- Climbing goes on from a silent level. -/
theorem climb_cons_of_silent {level : Path} {above : List Path}
    (silent : (document.resolveAt repository level.text identity access).value = .silent) :
    document.climb repository identity access (level :: above) = (do
      let _ ← document.resolveAt repository level.text identity access
      document.climb repository identity access above) := by
  rw [climb]
  cases asked : document.resolveAt repository level.text identity access with
  | mk steps resolution =>
      rw [asked] at silent
      cases silent
      rfl

/-! ## The whole way -/

/-- A search ends where it begins if there is a word, and at the root in any case. -/
theorem EndsAfter.of_last {path : Path}
    (last : (document.resolveAt repository path.text identity access).value = .silent →
      path.segments = []) :
    EndsAfter document repository identity access path 1 := by
  have climbed : document.climb repository identity access path.lineage =
      document.resolveAt repository path.text identity access := by
    by_cases isRoot : path.segments = []
    · rw [Path.lineage, if_pos isRoot, climb_cons_of_last fun _ => rfl]
    · rw [Path.lineage_of_ne isRoot, climb_cons_of_last fun silent => absurd (last silent) isRoot]
  refine ⟨?_, ?_, ?_⟩
  · intro earlier isEarlier
    obtain rfl : earlier = 0 := by omega
    rfl
  · rw [ascendBy, ascend_of_last fun silent => Path.text_eq_slash_iff.2 (last silent), climbed]
    exact Traced.ext (List.append_nil _) rfl
  · intro silent
    rw [climbed] at silent
    rw [last silent]
    rfl

/-- From a silent path below the root a search goes on as the search from the parent. -/
theorem EndsAfter.of_silent_below {path : Path} {rounds : Nat} (below : path.segments ≠ [])
    (silent : (document.resolveAt repository path.text identity access).value = .silent)
    (above : EndsAfter document repository identity access path.parent rounds) :
    EndsAfter document repository identity access path (rounds + 1) := by
  have climbed : document.climb repository identity access path.lineage = (do
      let _ ← document.resolveAt repository path.text identity access
      document.climb repository identity access path.parent.lineage) := by
    rw [Path.lineage_of_ne below, climb_cons_of_silent silent]
  refine ⟨?_, ?_, ?_⟩
  · intro earlier isEarlier
    -- The first round asks the path; the later ones are those of the search from the parent.
    cases earlier with
    | zero => rfl
    | succ earlier =>
        rw [ascendBy, ascend_of_silent below silent, value_bind, value_map,
          above.inTurn earlier (by omega), Function.iterate_succ_apply, Path.parentText_text]
  · rw [ascendBy, ascend_of_silent below silent, climbed]
    exact Traced.ext (by simp [above.ended]) (by simp [above.ended])
  · intro nothing
    rw [climbed, value_bind] at nothing
    have occupied := List.length_pos_iff.2 below
    rw [above.toRoot nothing, Path.segments_parent, List.length_dropLast]
    omega

variable (document repository identity access) in
/-- A search ends, at the latest with the root. -/
theorem exists_endsAfter (path : Path) :
    ∃ rounds ≤ path.segments.length + 1,
      EndsAfter document repository identity access path rounds := by
  induction path using Path.lineage.induct with
  | case1 path isRoot => exact ⟨1, by omega, .of_last fun _ => isRoot⟩
  | case2 path below inductionHypothesis =>
      by_cases silent : (document.resolveAt repository path.text identity access).value = .silent
      · obtain ⟨rounds, bounded, ends⟩ := inductionHypothesis
        refine ⟨rounds + 1, ?_, .of_silent_below below silent ends⟩
        have occupied := List.length_pos_iff.2 below
        rw [Path.segments_parent, List.length_dropLast] at bounded
        omega
      · exact ⟨1, by omega, .of_last fun nothing => absurd nothing silent⟩

/-! ## No permission asked for -/

theorem value_firstDecision_none (names : List String) :
    (document.firstDecision identity .none names).value = .silent := by
  induction names with
  | nil => rfl
  | cons name rest inductionHypothesis =>
      rw [firstDecision, value_bind, Verdict.hasDecision_none]
      exact inductionHypothesis

theorem value_climb_none (paths : List Path) :
    (document.climb repository identity .none paths).value = .silent := by
  induction paths with
  | nil => rfl
  | cons level above inductionHypothesis =>
      rw [climb_cons_of_silent (value_firstDecision_none _), value_bind, inductionHypothesis]

theorem value_resolve_none (text : String) :
    (document.resolve repository (some text) identity .none).value = .silent :=
  value_climb_none (Path.ofText text).lineage

/-! ## Resolving a path -/

/-- The normal spelling of a text has the segments of the text.  Each step up from it takes the last
segment away, the root is reached with the last of them and not before, and no ancestor comes twice
on the way.  So for every document, repository, identity and mask the search up from there ends:
there are at most as many rounds as levels, each round asks the next ancestor, and the search ends
with what the path is resolved by, by the same steps.  Without a word it ends only after all levels;
so it does with the mask without permissions, on which no section has a word. -/
theorem resolve_asks_ancestors_in_turn (text : String) :
    let start := Path.normalText text
    let segments := Path.segmentsOf text
    Path.segmentsOf start = segments ∧
    (∀ steps, Path.parentText^[steps] start =
      Path.spelling (segments.take (segments.length - steps))) ∧
    (∀ steps, Path.parentText^[steps] start = "/" ↔ segments.length ≤ steps) ∧
    ((List.range (segments.length + 1)).map fun steps => Path.parentText^[steps] start).Nodup ∧
    (∀ (document : Document) (repository : String) (identity : Identity) (access : Access),
      let resolved := document.resolve repository (some text) identity access
      ∃ rounds ≤ segments.length + 1,
        (∀ earlier < rounds,
          (document.ascendBy repository identity access earlier (.level start)).value =
            .level (Path.parentText^[earlier] start)) ∧
        (document.ascendBy repository identity access rounds (.level start)).value =
          .ended resolved.value ∧
        resolved.events =
          (document.ascendBy repository identity access rounds (.level start)).events ++
            [resolutionStep repository start identity access resolved.value] ∧
        (resolved.value = .silent → rounds = segments.length + 1)) ∧
    ∀ (document : Document) (repository : String) (identity : Identity),
      (∀ part?, (document.evaluate part? identity).value.hasDecision .none = false) ∧
        (document.resolve repository (some text) identity .none).value = .silent := by
  refine ⟨Path.segmentsOf_normalText text, Path.iterate_parentText_normalText text,
    Path.iterate_parentText_normalText_eq_slash_iff text,
    Path.nodup_iterate_parentText_normalText text, ?_, ?_⟩
  · intro document repository identity access
    obtain ⟨rounds, bounded, ends⟩ :=
      exists_endsAfter document repository identity access (Path.ofText text)
    refine ⟨rounds, bounded, ends.inTurn, ?_, ?_, ends.toRoot⟩
    · rw [Path.normalText, ends.ended]
      rfl
    · rw [Path.normalText, ends.ended, events_map]
      simp [resolve, resolvePath]
  · intro document repository identity
    exact ⟨fun part? => Verdict.hasDecision_none _, value_resolve_none text⟩

/-- A policy with a section for one directory only. -/
def singleDirectory : Document where
  sections := [⟨"/manuals", [⟨.anyone, .only .read⟩]⟩]
  groups := []
  unreserved := by decide
  sectionsDistinct := by decide
  groupsDistinct := List.nodup_nil

/-- With the mask without permissions a search goes past the only section, up to the root, and ends
there. -/
theorem singleDirectory_asked_up_to_root :
    let round := fun earlier =>
      (singleDirectory.ascendBy "repo" (.named "alice") .none earlier (.level "/manuals/old")).value
    (0 < 3 ∧ round 0 = .level "/manuals/old") ∧ (1 < 3 ∧ round 1 = .level "/manuals") ∧
      (2 < 3 ∧ round 2 = .level "/") ∧ round 3 = .ended .silent := by
  obtain ⟨_, _, _, _, ends, unpermitted⟩ := resolve_asks_ancestors_in_turn "manuals//old/"
  have nothing := (unpermitted singleDirectory "repo" (.named "alice")).2
  obtain ⟨rounds, _, inTurn, ended, _, toRoot⟩ :=
    ends singleDirectory "repo" (.named "alice") .none
  have three : rounds = 3 := toRoot nothing
  subst three
  rw [nothing] at ended
  refine ⟨⟨by decide, inTurn 0 (by decide)⟩, ⟨by decide, ?_⟩, ⟨by decide, ?_⟩, ended⟩
  · exact (inTurn 1 (by decide)).trans (by decide +kernel)
  · exact (inTurn 2 (by decide)).trans (by decide +kernel)

end Document

end PathPolicy
