import PathPolicy.Text.Pieces

/-!
# Repository paths

A path is the list of its segments, none of them empty and none with a slash in
it.  Any text reads as a path: slashes only separate, so doubled, leading and
final ones do not matter.  The text of a path begins with a slash and has one
between two segments; the path without segments is the root.
-/

namespace PathPolicy

/-- A segment is a text that is not empty and holds no slash. -/
def IsSegment (text : String) : Prop :=
  text ≠ "" ∧ '/' ∉ text.toList

/-- The place of a file or a directory in a repository. -/
structure Path where
  segments : List String
  sound : ∀ segment ∈ segments, IsSegment segment

namespace Path

instance : DecidableEq Path := fun left right =>
  if same : left.segments = right.segments then
    isTrue (by cases left; cases right; simp_all)
  else isFalse fun equal => same (equal ▸ rfl)

/-- The segments of a text: what stands between slashes and is not empty. -/
def segmentsOf (text : String) : List String :=
  ((Text.splitAt '/' text.toList).filter fun piece => !piece.isEmpty).map String.ofList

theorem isSegment_of_mem_segmentsOf {text segment : String} (member : segment ∈ segmentsOf text) :
    IsSegment segment := by
  obtain ⟨piece, isPiece, rfl⟩ := List.mem_map.1 member
  obtain ⟨isPiece, notEmpty⟩ := List.mem_filter.1 isPiece
  refine ⟨?_, by simpa using Text.not_mem_of_mem_splitAt isPiece⟩
  intro empty
  have nothing : piece = [] := by simpa using congrArg String.toList empty
  simp [nothing] at notEmpty

/-- The path that a text spells. -/
def ofText (text : String) : Path :=
  ⟨segmentsOf text, fun _ member => isSegment_of_mem_segmentsOf member⟩

/-- The normal spelling of a path. -/
def text (path : Path) : String :=
  "/" ++ String.intercalate "/" path.segments

/-- The path above all others. -/
def root : Path :=
  ⟨[], by simp⟩

/-- The path without its last segment; the root is its own parent. -/
def parent (path : Path) : Path :=
  ⟨path.segments.dropLast, fun segment member =>
    path.sound segment ((List.dropLast_sublist path.segments).subset member)⟩

/-- The path itself and everything above it, up to the root. -/
def lineage (path : Path) : List Path :=
  if path.segments = [] then [path] else path :: lineage path.parent
termination_by path.segments.length
decreasing_by
  rename_i notRoot
  have positive := List.length_pos_iff.2 notRoot
  simp only [parent, List.length_dropLast]
  omega

@[simp]
theorem segments_parent (path : Path) : path.parent.segments = path.segments.dropLast :=
  rfl

/-- The ancestors of a path below the root are the path and the ancestors of its
parent. -/
theorem lineage_of_ne {path : Path} (below : path.segments ≠ []) :
    lineage path = path :: lineage path.parent := by
  rw [lineage, if_neg below]

end Path

end PathPolicy
