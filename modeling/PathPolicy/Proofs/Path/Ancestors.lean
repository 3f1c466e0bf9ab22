import Mathlib.Data.List.Nodup
import PathPolicy.Proofs.Path.Slashes

/-!
# The ancestors of a path

One step up takes the last segment away, so above a path there are as many paths as it has segments,
all of them different, and the root is the last.  The same steps can be taken in the spelling: a
text is read as a path, and what is above the path is spelled.
-/

namespace PathPolicy.Path

/-- The normal spelling of the path that a text spells. -/
def normalText (text : String) : String :=
  (ofText text).text

/-- The normal spelling of what is one step above the path that a text spells. -/
def parentText (text : String) : String :=
  (ofText text).parent.text

theorem segmentsOf_normalText (text : String) : segmentsOf (normalText text) = segmentsOf text :=
  segmentsOf_text (ofText text)

theorem segments_iterate_parent (path : Path) (steps : Nat) :
    (parent^[steps] path).segments = path.segments.take (path.segments.length - steps) := by
  induction steps with
  | zero => simp
  | succ steps inductionHypothesis =>
      rw [Function.iterate_succ_apply', segments_parent, inductionHypothesis,
        List.dropLast_eq_take, List.take_take, List.length_take]
      congr 1
      omega

theorem length_segments_iterate_parent (path : Path) (steps : Nat) :
    (parent^[steps] path).segments.length = path.segments.length - steps := by
  rw [segments_iterate_parent, List.length_take]
  omega

theorem text_injective : Function.Injective text :=
  Function.LeftInverse.injective ofText_text

/-- Only the root is spelled as a single slash. -/
theorem text_eq_slash_iff {path : Path} : path.text = "/" ↔ path.segments = [] := by
  have spelled : root.text = "/" := rfl
  rw [← spelled, text_injective.eq_iff]
  constructor
  · intro isRoot
    rw [isRoot]
    rfl
  · intro isRoot
    exact eq_of_segments_eq isRoot

theorem parentText_text (path : Path) : parentText path.text = path.parent.text := by
  rw [parentText, ofText_text]

theorem iterate_parentText_text (path : Path) (steps : Nat) :
    parentText^[steps] path.text = (parent^[steps] path).text :=
  (Function.Semiconj.iterate_right (fun level => (parentText_text level).symm) steps path).symm

theorem iterate_parentText_normalText (text : String) (steps : Nat) :
    parentText^[steps] (normalText text) =
      spelling ((segmentsOf text).take ((segmentsOf text).length - steps)) := by
  rw [normalText, iterate_parentText_text, text_eq_spelling, segments_iterate_parent]
  rfl

/-- The root is reached when all segments have been taken away. -/
theorem iterate_parentText_normalText_eq_slash_iff (text : String) (steps : Nat) :
    parentText^[steps] (normalText text) = "/" ↔ (segmentsOf text).length ≤ steps := by
  rw [normalText, iterate_parentText_text, text_eq_slash_iff, ← List.length_eq_zero_iff,
    length_segments_iterate_parent]
  exact Nat.sub_eq_zero_iff_le

/-- No ancestor comes twice on the way to the root. -/
theorem nodup_iterate_parentText_normalText (text : String) :
    ((List.range ((segmentsOf text).length + 1)).map
      fun steps => parentText^[steps] (normalText text)).Nodup := by
  refine List.Nodup.map_on ?_ List.nodup_range
  intro steps upToRoot others othersUpToRoot same
  rw [normalText, iterate_parentText_text, iterate_parentText_text] at same
  have sameLength := congrArg (fun level => level.segments.length) (text_injective same)
  simp only [length_segments_iterate_parent] at sameLength
  have stepsLeft : steps ≤ (ofText text).segments.length :=
    Nat.lt_succ_iff.1 (List.mem_range.1 upToRoot)
  have othersLeft : others ≤ (ofText text).segments.length :=
    Nat.lt_succ_iff.1 (List.mem_range.1 othersUpToRoot)
  omega

end PathPolicy.Path
