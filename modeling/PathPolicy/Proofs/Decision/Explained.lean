import PathPolicy.Decision.Explanation
import PathPolicy.Proofs.Decision.Meaning

/-!
# Explanations of decisions

An explanation goes its own way through a policy, beside the decision that it explains.  The
main statement is that both come to the same answer, and that the sections which an explanation
names are there and do what they are named for: one decides, and one below the path vetoes.
-/

namespace PathPolicy.Document

open Traced

variable (document : Document)

/-- What an explanation of a request tells about a document: the answer to the request, and with
the names of the two sections why it is the answer. -/
structure Explains (request : Request) (explanation : Explanation) : Prop where
  /-- The explanation gives the answer that the request gets. -/
  answers : explanation.isAllowed = (document.check request).value
  /-- No section decides when the path is unknown or no section is found on the way up. -/
  deciding_eq_none_iff : explanation.deciding = none ↔
    request.path = none ∨
      (document.resolve request.repository request.path request.identity
        request.kind.required).value.isFound = false
  /-- The deciding section is a candidate for the path and has an entry for the identity. -/
  deciding_speaks : ∀ name, explanation.deciding = some name →
    ∃ text, request.path = some text ∧ name ∈ candidates request.repository (.ofText text) ∧
      ∃ part ∈ document.sections, part.name = name ∧ document.SpeaksTo request.identity part
  /-- What is allowed on a known path is granted by an entry of the deciding section. -/
  deciding_grants : explanation.isAllowed = true → request.path ≠ none →
    ∃ part ∈ document.sections, explanation.deciding = some part.name ∧
      document.GrantsTo request.identity request.kind.permission part
  /-- A section vetoes when the path may be read but not recursively. -/
  vetoing_ne_none_iff : explanation.vetoing ≠ none ↔
    request.kind = .readRecursive ∧
      document.allows request.repository request.path request.identity .read = true ∧
      (document.check request).value = false
  /-- The vetoing section lies below the path and its own verdict denies reading. -/
  vetoing_denies : ∀ name, explanation.vetoing = some name →
    ∃ text, request.path = some text ∧ IsNameBelow request.repository (.ofText text) name ∧
      ∃ part ∈ document.sections, part.name = name ∧
        (document.evaluate (some part) request.identity).value.allows (.only .read) = false

/-! ## The search for a veto -/

/-- The section that is reported among some is one of them, and its verdict does not allow. -/
theorem exists_of_value_firstDenial_eq_some {identity : Identity} {access : Access}
    {parts : List Section} {name : String}
    (found : (document.firstDenial identity access parts).value = some name) :
    ∃ part ∈ parts, part.name = name ∧
      (document.evaluate (some part) identity).value.allows access = false := by
  induction parts with
  | nil => cases found
  | cons part rest inductionHypothesis =>
      rw [firstDenial, value_bind] at found
      cases verdict : (document.evaluate (some part) identity).value.allows access with
      | true =>
          rw [verdict, if_pos rfl] at found
          rcases inductionHypothesis found with ⟨other, member, called, denies⟩
          exact ⟨other, List.mem_cons_of_mem part member, called, denies⟩
      | false =>
          rw [verdict] at found
          cases found
          exact ⟨part, List.mem_cons_self, rfl, verdict⟩

/-! ## How an explanation ends -/

/-- The first section on the way up to the root that has a word for a request. -/
def nearest? (request : Request) (text : String) : Option String :=
  document.firstSpeaking? request.identity (candidates request.repository (.ofText text))

/-- Whether the section of a name grants what a request needs. -/
def grantsNeed (request : Request) (name : String) : Bool :=
  anyGrants request.kind.permission (document.grantsAt request.identity name)

/-- The section that vetoes a request to read recursively. -/
def veto? (request : Request) (text : String) : Option String :=
  (document.denyingSection request.repository text request.identity (.only .read)).value

theorem value_resolve_request (request : Request) (text : String) :
    (document.resolve request.repository (some text) request.identity
        request.kind.required).value =
      document.resolutionOf request.identity request.kind.permission
        (document.nearest? request text) :=
  document.value_resolve request.identity request.kind.permission request.repository text

/-- The ways in which the explanation of a request for a known path ends. -/
inductive Ends (request : Request) (text : String) : Explanation → Prop
  | noRule (silent : document.nearest? request text = none) :
      Ends request text ⟨request, .noRule, none, none⟩
  | denied (name : String) (nearest : document.nearest? request text = some name)
      (refused : document.grantsNeed request name = false) :
      Ends request text ⟨request, .denied, some name, none⟩
  | deniedBelow (name vetoing : String) (nearest : document.nearest? request text = some name)
      (granted : document.grantsNeed request name = true)
      (recursive : request.kind = .readRecursive)
      (vetoed : document.veto? request text = some vetoing) :
      Ends request text ⟨request, .deniedBelow, some name, some vetoing⟩
  | allowed (name : String) (nearest : document.nearest? request text = some name)
      (granted : document.grantsNeed request name = true)
      (unvetoed : request.kind = .readRecursive → document.veto? request text = none) :
      Ends request text ⟨request, .allowed, some name, none⟩

variable {document} {request : Request} {text : String} {explanation : Explanation}

/-- The explanation of a request for a known path ends in one of these ways. -/
theorem ends_explain (known : request.path = some text) :
    document.Ends request text (document.explain request).value := by
  have resolved := document.value_resolve_request request text
  cases nearest : document.nearest? request text with
  | none =>
      rw [nearest, resolutionOf] at resolved
      simp only [explain, known, value_bind, resolved]
      exact .noRule nearest
  | some name =>
      rw [nearest] at resolved
      cases granted : document.grantsNeed request name with
      | false =>
          have denied := resolved.trans (congrArg (Resolution.decided name) granted)
          simp only [explain, known, value_bind, denied]
          exact .denied name nearest granted
      | true =>
          have allowed := resolved.trans (congrArg (Resolution.decided name) granted)
          simp only [explain, known, value_bind, allowed]
          by_cases recursive : request.kind = .readRecursive
          · have search : (document.denyingSection request.repository text request.identity
                request.kind.required).value = document.veto? request text := by
              rw [recursive]
              rfl
            simp only [if_pos recursive, value_bind, search]
            cases vetoed : document.veto? request text with
            | none => exact .allowed name nearest granted fun _ => vetoed
            | some vetoing => exact .deniedBelow name vetoing nearest granted recursive vetoed
          · rw [if_neg recursive]
            exact .allowed name nearest granted fun isRecursive => absurd isRecursive recursive

theorem value_check_iff (known : request.path = some text) :
    (document.check request).value = true ↔
      (∃ name, document.nearest? request text = some name ∧
        document.grantsNeed request name = true) ∧
      (request.kind = .readRecursive → document.veto? request text = none) := by
  have decided := document.allows_some_iff request.identity request.repository text request.kind
  rw [← known] at decided
  rw [veto?, value_denyingSection_eq_none_iff]
  exact decided

namespace Ends

theorem answers (ends : document.Ends request text explanation) (known : request.path = some text) :
    explanation.isAllowed = (document.check request).value := by
  rw [Bool.eq_iff_iff, value_check_iff known]
  cases ends with
  | noRule silent => simp [Explanation.isAllowed, Reason.isAllowed, silent]
  | denied name nearest refused =>
      simp [Explanation.isAllowed, Reason.isAllowed, nearest, refused]
  | deniedBelow name vetoing nearest granted recursive vetoed =>
      simp [Explanation.isAllowed, Reason.isAllowed, recursive, vetoed]
  | allowed name nearest granted unvetoed =>
      simpa [Explanation.isAllowed, Reason.isAllowed, nearest, granted] using unvetoed

theorem deciding_eq (ends : document.Ends request text explanation) :
    explanation.deciding = document.nearest? request text := by
  cases ends with
  | noRule silent => exact silent.symm
  | denied name nearest refused => exact nearest.symm
  | deniedBelow name vetoing nearest granted recursive vetoed => exact nearest.symm
  | allowed name nearest granted unvetoed => exact nearest.symm

theorem granted_of_isAllowed (ends : document.Ends request text explanation)
    (isAllowed : explanation.isAllowed = true) :
    ∃ name, document.nearest? request text = some name ∧
      document.grantsNeed request name = true := by
  cases ends with
  | noRule silent => cases isAllowed
  | denied name nearest refused => cases isAllowed
  | deniedBelow name vetoing nearest granted recursive vetoed => cases isAllowed
  | allowed name nearest granted unvetoed => exact ⟨name, nearest, granted⟩

/-- The section that vetoes is one that the search below the path reports. -/
theorem vetoing_eq_some_iff (ends : document.Ends request text explanation) {vetoing : String} :
    explanation.vetoing = some vetoing ↔
      request.kind = .readRecursive ∧
        (∃ name, document.nearest? request text = some name ∧
          document.grantsNeed request name = true) ∧
        document.veto? request text = some vetoing := by
  cases ends with
  | noRule silent => simp [silent]
  | denied name nearest refused => simp [nearest, refused]
  | deniedBelow name vetoing nearest granted recursive vetoed =>
      simp [nearest, granted, recursive, vetoed]
  | allowed name nearest granted unvetoed =>
      constructor
      · intro named
        cases named
      · rintro ⟨recursive, _, vetoed⟩
        rw [unvetoed recursive] at vetoed
        cases vetoed

end Ends

/-! ## The sections that are named -/

theorem allows_read_iff (known : request.path = some text)
    (recursive : request.kind = .readRecursive) :
    document.allows request.repository request.path request.identity .read = true ↔
      ∃ name, document.nearest? request text = some name ∧
        document.grantsNeed request name = true := by
  rw [known, allows_some_iff]
  simp only [nearest?, grantsNeed, recursive, AccessKind.permission, reduceCtorEq, false_implies,
    and_true]

theorem speaksTo_of_nearest? {name : String}
    (nearest : document.nearest? request text = some name) :
    name ∈ candidates request.repository (.ofText text) ∧
      ∃ part ∈ document.sections, part.name = name ∧ document.SpeaksTo request.identity part := by
  rcases firstSpeaking?_candidates_eq_some_iff.1 nearest with
    ⟨part, ⟨member, speaks, before, after, split, _⟩, rfl⟩
  constructor
  · rw [split]
    exact List.mem_append_right before List.mem_cons_self
  · exact ⟨part, member, rfl, speaks⟩

theorem grantsTo_of_nearest? {name : String} (nearest : document.nearest? request text = some name)
    (granted : document.grantsNeed request name = true) :
    ∃ part ∈ document.sections, part.name = name ∧
      document.GrantsTo request.identity request.kind.permission part := by
  rcases speaksTo_of_nearest? nearest with ⟨_, part, member, rfl, _⟩
  rw [grantsNeed, grantsAt_of_mem request.identity member] at granted
  exact ⟨part, member, rfl, anyGrants_grantsOf_iff.1 granted⟩

theorem denies_of_veto? {name : String} (vetoed : document.veto? request text = some name) :
    IsNameBelow request.repository (.ofText text) name ∧
      ∃ part ∈ document.sections, part.name = name ∧
        (document.evaluate (some part) request.identity).value.allows (.only .read) = false := by
  rw [veto?, value_denyingSection] at vetoed
  rcases document.exists_of_value_firstDenial_eq_some vetoed with ⟨part, reported, rfl, denies⟩
  rcases mem_sectionsBelow_iff.1 reported with ⟨member, nameBelow⟩
  exact ⟨nameBelow, part, member, rfl, denies⟩

theorem explains_of_unknown (unknown : request.path = none) :
    document.Explains request ⟨request, .pathUnknown, none, none⟩ := by
  have answered : (document.check request).value = true := by
    simp only [check, decideTraced, unknown, value_pure]
  constructor
  case answers => exact answered.symm
  case deciding_eq_none_iff => simp [unknown]
  case deciding_speaks => simp
  case deciding_grants => exact fun _ known => absurd unknown known
  case vetoing_ne_none_iff => simp [answered]
  case vetoing_denies => simp

namespace Ends

theorem deciding_eq_none_iff (ends : document.Ends request text explanation) :
    explanation.deciding = none ↔
      (document.resolve request.repository (some text) request.identity
        request.kind.required).value.isFound = false := by
  rw [ends.deciding_eq, value_resolve_request]
  cases document.nearest? request text <;> simp [resolutionOf, Resolution.isFound]

/-- A section vetoes exactly when the path may be read but not recursively. -/
theorem vetoing_ne_none_iff (ends : document.Ends request text explanation)
    (known : request.path = some text) :
    explanation.vetoing ≠ none ↔
      request.kind = .readRecursive ∧
        document.allows request.repository request.path request.identity .read = true ∧
        (document.check request).value = false := by
  rw [Option.ne_none_iff_exists', ← Bool.not_eq_true, value_check_iff known]
  constructor
  · rintro ⟨vetoing, named⟩
    rcases ends.vetoing_eq_some_iff.1 named with ⟨recursive, readable, vetoed⟩
    refine ⟨recursive, (allows_read_iff known recursive).2 readable, ?_⟩
    rintro ⟨_, unvetoed⟩
    rw [unvetoed recursive] at vetoed
    cases vetoed
  · rintro ⟨recursive, allowsRead, refused⟩
    have readable := (allows_read_iff known recursive).1 allowsRead
    cases vetoed : document.veto? request text with
    | none => exact absurd ⟨readable, fun _ => vetoed⟩ refused
    | some vetoing => exact ⟨vetoing, ends.vetoing_eq_some_iff.2 ⟨recursive, readable, vetoed⟩⟩

/-- However the explanation of a request for a known path ends, it tells what is so. -/
theorem explains (ends : document.Ends request text explanation)
    (known : request.path = some text) : document.Explains request explanation := by
  constructor
  case answers => exact ends.answers known
  case deciding_eq_none_iff =>
      rw [ends.deciding_eq_none_iff, known]
      simp
  case deciding_speaks =>
      intro name named
      rw [ends.deciding_eq] at named
      exact ⟨text, known, speaksTo_of_nearest? named⟩
  case deciding_grants =>
      intro isAllowed _
      rcases ends.granted_of_isAllowed isAllowed with ⟨name, nearest, granted⟩
      rcases grantsTo_of_nearest? nearest granted with ⟨part, member, rfl, grants⟩
      exact ⟨part, member, ends.deciding_eq.trans nearest, grants⟩
  case vetoing_ne_none_iff => exact ends.vetoing_ne_none_iff known
  case vetoing_denies =>
      intro name named
      rcases ends.vetoing_eq_some_iff.1 named with ⟨_, _, vetoed⟩
      exact ⟨text, known, denies_of_veto? vetoed⟩

end Ends

/-- The explanation of a request gives the answer that the request gets. -/
theorem isAllowed_value_explain (document : Document) (request : Request) :
    (document.explain request).value.isAllowed = (document.check request).value := by
  cases path : request.path with
  | none =>
      have unknown : (document.explain request).value = ⟨request, .pathUnknown, none, none⟩ := by
        simp only [explain, path, value_pure]
      rw [unknown]
      exact (explains_of_unknown path).answers
  | some text => exact (ends_explain path).answers path

/-- An explanation agrees with the decision, and the sections that it names are there and do what
they are named for. -/
theorem explain_explains (document : Document) (request : Request) :
    document.Explains request (document.explain request).value := by
  cases path : request.path with
  | none =>
      have unknown : (document.explain request).value = ⟨request, .pathUnknown, none, none⟩ := by
        simp only [explain, path, value_pure]
      rw [unknown]
      exact explains_of_unknown path
  | some text =>
      have ends : document.Ends request text (document.explain request).value := ends_explain path
      exact ends.explains path

end PathPolicy.Document
