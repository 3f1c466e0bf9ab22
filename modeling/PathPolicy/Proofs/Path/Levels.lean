import Mathlib.Data.List.Infix
import PathPolicy.Path

/-!
# Levels of a path

The levels of a path are the path itself and everything above it, so they are the
prefixes of its segments.  A path that lies below another has all levels of the
upper one as its last levels, and its spelling begins with that of the upper one.
-/

namespace PathPolicy.Path

/-- The normal spelling of some segments. -/
def spelling (segments : List String) : String :=
  "/" ++ String.intercalate "/" segments

/-- The spellings of a path and of everything above it, the deepest level first. -/
def levels (path : Path) : List String :=
  path.segments.inits.reverse.map spelling

/-- A path lies below another one, or is that one, when it goes on where the other
one ends. -/
def IsBelow (lower upper : Path) : Prop :=
  upper.segments <+: lower.segments

theorem text_eq_spelling (path : Path) : path.text = spelling path.segments :=
  rfl

/-- Paths with the same segments are equal. -/
theorem eq_of_segments_eq {left right : Path} (same : left.segments = right.segments) :
    left = right := by
  cases left
  cases right
  simpa using same

theorem reverse_inits_of_ne {α : Type} {items : List α} (occupied : items ≠ []) :
    items.inits.reverse = items :: items.dropLast.inits.reverse := by
  obtain ⟨front, last, rfl⟩ : ∃ front last, items = front ++ [last] :=
    ⟨_, _, (List.dropLast_concat_getLast occupied).symm⟩
  simp [List.inits_append]

theorem levels_of_ne {path : Path} (notRoot : path.segments ≠ []) :
    path.levels = path.text :: path.parent.levels := by
  rw [levels, reverse_inits_of_ne notRoot, List.map_cons]
  rfl

/-- The lineage of a path is spelled level by level. -/
theorem map_text_lineage (path : Path) : path.lineage.map text = path.levels := by
  induction path using lineage.induct with
  | case1 path isRoot =>
      rw [lineage, if_pos isRoot]
      simp [levels, isRoot, text_eq_spelling]
  | case2 path notRoot inductionHypothesis =>
      rw [lineage_of_ne notRoot, List.map_cons, inductionHypothesis, levels_of_ne notRoot]

/-- The lineage of a path ends with the lineage of everything that it lies below, and
what comes before that lies below it as well. -/
theorem IsBelow.lineage_eq_append {lower upper : Path} (below : lower.IsBelow upper) :
    ∃ between, lower.lineage = between ++ upper.lineage ∧
      ∀ level ∈ between, level.IsBelow upper := by
  induction lower using lineage.induct with
  | case1 lower isRoot =>
      have same : upper = lower := by
        apply eq_of_segments_eq
        rw [IsBelow, isRoot] at below
        rw [isRoot, List.prefix_nil.1 below]
      exact ⟨[], by simp [same], by simp⟩
  | case2 lower notRoot inductionHypothesis =>
      have continues : lower.parent.segments ++ [lower.segments.getLast notRoot] = lower.segments :=
        List.dropLast_concat_getLast notRoot
      rw [IsBelow, ← continues, List.prefix_concat_iff, continues] at below
      rcases below with same | belowParent
      · rw [eq_of_segments_eq same]
        exact ⟨[], by simp, by simp⟩
      · obtain ⟨between, split, allBelow⟩ := inductionHypothesis belowParent
        refine ⟨lower :: between, ?_, ?_⟩
        · rw [lineage_of_ne notRoot, split, List.cons_append]
        · intro level member
          rcases List.mem_cons.1 member with rfl | later
          · exact belowParent.trans (List.dropLast_prefix level.segments)
          · exact allBelow level later

/-- The spelling of a path begins with the spelling of everything that it lies below. -/
theorem IsBelow.text_prefix_text {lower upper : Path} (below : lower.IsBelow upper) :
    upper.text.toList <+: lower.text.toList := by
  obtain ⟨rest, joined⟩ := below
  rw [text_eq_spelling, text_eq_spelling, ← joined]
  by_cases isRoot : upper.segments = []
  · simp [isRoot, spelling]
  · by_cases same : rest = []
    · simp [same]
    · rw [spelling, spelling, String.intercalate_append_of_ne_nil isRoot same]
      simp [List.append_assoc]

end PathPolicy.Path
