import Mathlib.Logic.Relation
import PathPolicy.Proofs.Path.Levels
import PathPolicy.Proofs.Text.Pieces

/-!
# Slashes that say nothing

A slash in front of a text, one behind it and one beside another slash are lost when the text is
read as a path.  Nothing else is: two texts spell the same path exactly when one becomes the other
by adding and removing such slashes.  In particular the normal spelling of a path spells it.
-/

namespace PathPolicy.Path

open Relation (EqvGen)

/-- One more slash where it says nothing: in front, behind, or beside another one. -/
inductive SlashAdded : List Char → List Char → Prop
  | inFront (text : List Char) : SlashAdded text ('/' :: text)
  | behind (text : List Char) : SlashAdded text (text ++ ['/'])
  | doubled (before after : List Char) :
      SlashAdded (before ++ '/' :: after) (before ++ '/' :: '/' :: after)

/-- The pieces between the slashes of a text that are not empty. -/
def piecesOf (text : List Char) : List (List Char) :=
  (Text.splitAt '/' text).filter fun piece => !piece.isEmpty

theorem segmentsOf_eq_map_piecesOf (text : String) :
    segmentsOf text = (piecesOf text.toList).map String.ofList :=
  rfl

theorem piecesOf_append_cons (before after : List Char) :
    piecesOf (before ++ '/' :: after) = piecesOf before ++ piecesOf after := by
  rw [piecesOf, Text.splitAt_append_cons, List.filter_append]
  rfl

/-- A slash that says nothing does not change the pieces. -/
theorem SlashAdded.piecesOf_eq {text changed : List Char} (added : SlashAdded text changed) :
    piecesOf text = piecesOf changed := by
  cases added with
  | inFront => exact (piecesOf_append_cons [] text).symm
  | behind =>
      rw [piecesOf_append_cons]
      exact (List.append_nil _).symm
  | doubled before after =>
      calc
        piecesOf (before ++ '/' :: after) = piecesOf before ++ piecesOf after :=
          piecesOf_append_cons before after
        _ = piecesOf before ++ piecesOf ('/' :: after) :=
          congrArg _ (piecesOf_append_cons [] after).symm
        _ = piecesOf (before ++ '/' :: '/' :: after) :=
          (piecesOf_append_cons before ('/' :: after)).symm

theorem piecesOf_eq_of_eqvGen {first second : List Char}
    (joined : EqvGen SlashAdded first second) : piecesOf first = piecesOf second := by
  induction joined with
  | rel _ _ added => exact added.piecesOf_eq
  | refl => rfl
  | symm _ _ _ inductionHypothesis => exact inductionHypothesis.symm
  | trans _ _ _ _ _ firstHypothesis secondHypothesis => exact firstHypothesis.trans secondHypothesis

/-- Each of some pieces behind a slash. -/
def slashed (pieces : List (List Char)) : List Char :=
  pieces.flatMap fun piece => '/' :: piece

/-- A text behind a slash is made of its pieces, each behind its slash. -/
theorem slashed_splitAt (text : List Char) : slashed (Text.splitAt '/' text) = '/' :: text := by
  induction text with
  | nil => rfl
  | cons c rest inductionHypothesis =>
      by_cases isSlash : c = '/'
      · rw [Text.splitAt, if_pos isSlash, slashed, List.flatMap_cons, ← slashed,
          inductionHypothesis, isSlash]
        rfl
      · cases cut : Text.splitAt '/' rest with
        | nil => exact absurd cut (Text.splitAt_ne_nil '/' rest)
        | cons piece pieces =>
            rw [cut, slashed, List.flatMap_cons, List.cons_append, List.cons_inj_right]
              at inductionHypothesis
            rw [Text.splitAt_cons_of_ne isSlash cut, slashed, List.flatMap_cons, List.cons_append,
              List.cons_append, inductionHypothesis]

/-- Empty pieces only add slashes that say nothing. -/
theorem eqvGen_slashed_filter (before : List Char) (pieces : List (List Char)) :
    EqvGen SlashAdded (before ++ slashed pieces)
      (before ++ slashed (pieces.filter fun piece => !piece.isEmpty)) := by
  induction pieces generalizing before with
  | nil => exact .refl _
  | cons piece rest inductionHypothesis =>
      cases piece with
      | nil =>
          refine .trans _ (before ++ slashed rest) _ (.symm _ _ (.rel _ _ ?_))
            (inductionHypothesis before)
          cases rest with
          | nil =>
              rw [slashed, List.flatMap_nil, List.append_nil]
              exact .behind before
          | cons next others => exact .doubled before (next ++ slashed others)
      | cons c others =>
          have joined := inductionHypothesis (before ++ '/' :: c :: others)
          rw [List.append_assoc, List.append_assoc] at joined
          exact joined

theorem eqvGen_slashed_piecesOf (text : List Char) :
    EqvGen SlashAdded text (slashed (piecesOf text)) := by
  refine .trans _ ('/' :: text) _ (.rel _ _ (.inFront text)) ?_
  rw [← slashed_splitAt]
  exact eqvGen_slashed_filter [] (Text.splitAt '/' text)

/-- Two texts have the same segments exactly when they differ by slashes that say nothing. -/
theorem segmentsOf_eq_iff_eqvGen {first second : String} :
    segmentsOf first = segmentsOf second ↔ EqvGen SlashAdded first.toList second.toList := by
  rw [segmentsOf_eq_map_piecesOf, segmentsOf_eq_map_piecesOf,
    (List.map_injective_iff.2 fun _ _ same => String.ofList_injective same).eq_iff]
  constructor
  · intro same
    have toSecond := EqvGen.symm _ _ (eqvGen_slashed_piecesOf second.toList)
    rw [← same] at toSecond
    exact .trans _ _ _ (eqvGen_slashed_piecesOf first.toList) toSecond
  · exact piecesOf_eq_of_eqvGen

theorem ofText_eq_of_segmentsOf_eq {first second : String}
    (same : segmentsOf first = segmentsOf second) : ofText first = ofText second :=
  eq_of_segments_eq same

/-- Segments with a slash between two of them are the pieces of the whole. -/
theorem piecesOf_intercalate {segments : List String}
    (sound : ∀ segment ∈ segments, IsSegment segment) :
    piecesOf (['/'].intercalate (segments.map String.toList)) = segments.map String.toList := by
  have occupied : ∀ piece ∈ segments.map String.toList, (!piece.isEmpty) = true := by
    rw [List.forall_mem_map]
    exact fun segment member => by simp [(sound segment member).1]
  have unslashed : ∀ piece ∈ segments.map String.toList, '/' ∉ piece := by
    rw [List.forall_mem_map]
    exact fun segment member => (sound segment member).2
  cases segments with
  | nil => rfl
  | cons first others =>
      rw [List.map_cons] at occupied unslashed ⊢
      have cut := Text.splitAt_intercalate List.not_mem_nil unslashed
      rw [funext List.nil_append, List.map_id'] at cut
      rw [piecesOf, cut, List.filter_eq_self.2 occupied]

/-- The normal spelling of a path has the segments of the path. -/
theorem segmentsOf_text (path : Path) : segmentsOf path.text = path.segments := by
  have joined :
      path.text.toList = [] ++ '/' :: ['/'].intercalate (path.segments.map String.toList) := by
    simp [text]
  rw [segmentsOf_eq_map_piecesOf, joined, piecesOf_append_cons, piecesOf_intercalate path.sound]
  simp [piecesOf, Text.splitAt]

@[simp]
theorem ofText_text (path : Path) : ofText path.text = path :=
  eq_of_segments_eq path.segmentsOf_text

end PathPolicy.Path
