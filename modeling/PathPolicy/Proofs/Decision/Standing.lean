import Mathlib.Order.Basic
import PathPolicy.Proofs.Decision.Grants

/-!
# Standing under a name

Under each name an identity is denied a permission, or allowed it, or nothing is said about
it.  The three are in order, with silence between the others, and the way up to the root keeps
this order although it stops at the first name that is not silent.  A request is settled by the
standings under the names that are looked at for it: it stays allowed when none of them falls.
-/

namespace PathPolicy

/-- What is said about a permission, from the worst to the best. -/
inductive Standing
  | denied
  | silent
  | allowed

namespace Standing

/-- The place of a standing among the three. -/
def rank : Standing → Nat
  | .denied => 0
  | .silent => 1
  | .allowed => 2

theorem rank_injective : Function.Injective rank := by
  intro left right
  cases left <;> cases right <;> simp [rank]

/-- Silence is better than a denial, and a grant is better than silence. -/
instance : PartialOrder Standing :=
  PartialOrder.lift rank rank_injective

instance : DecidableLE Standing := fun left right =>
  inferInstanceAs (Decidable (left.rank ≤ right.rank))

theorem denied_le (standing : Standing) : denied ≤ standing :=
  Nat.zero_le standing.rank

theorem le_allowed (standing : Standing) : standing ≤ allowed := by
  cases standing <;> decide

theorem eq_allowed_of_le {standing : Standing} (good : allowed ≤ standing) : standing = allowed :=
  le_antisymm (le_allowed standing) good

theorem eq_denied_of_le {standing : Standing} (bad : standing ≤ denied) : standing = denied :=
  le_antisymm bad (denied_le standing)

/-- What two standings in one section come to: a grant outranks a denial, and silence does not
count. -/
def join : Standing → Standing → Standing
  | .allowed, _ => .allowed
  | _, .allowed => .allowed
  | .silent, right => right
  | .denied, _ => .denied

@[simp]
theorem silent_join (standing : Standing) : silent.join standing = standing := by
  cases standing <;> rfl

@[simp]
theorem join_silent (standing : Standing) : standing.join silent = standing := by
  cases standing <;> rfl

theorem join_assoc (first second third : Standing) :
    (first.join second).join third = first.join (second.join third) := by
  cases first <;> cases second <;> cases third <;> rfl

theorem join_le_join {left right betterLeft betterRight : Standing} (leftLe : left ≤ betterLeft)
    (rightLe : right ≤ betterRight) : left.join right ≤ betterLeft.join betterRight := by
  revert leftLe rightLe
  cases left <;> cases right <;> cases betterLeft <;> cases betterRight <;> decide

/-- The first of some standings that is not silent. -/
def first : List Standing → Standing
  | [] => .silent
  | .denied :: _ => .denied
  | .silent :: rest => first rest
  | .allowed :: _ => .allowed

/-- Where every standing is at least as good as another, so is the first that is not silent. -/
theorem first_map_le_first_map {names : List String} {before after : String → Standing}
    (better : ∀ name ∈ names, before name ≤ after name) :
    first (names.map before) ≤ first (names.map after) := by
  induction names with
  | nil => exact le_refl _
  | cons name rest inductionHypothesis =>
      rw [List.forall_mem_cons] at better
      rcases better with ⟨here, later⟩
      rw [List.map_cons, List.map_cons]
      cases beforeHere : before name with
      | denied => exact denied_le _
      | allowed =>
          rw [beforeHere] at here
          rw [eq_allowed_of_le here]
          exact le_refl _
      | silent =>
          rw [beforeHere] at here
          cases afterHere : after name with
          | denied =>
              rw [afterHere] at here
              cases eq_denied_of_le here
          | silent => exact inductionHypothesis later
          | allowed => exact le_allowed _

/-- The standing of an identity to which some masks are granted. -/
def ofGrants (permission : Permission) (grants : List Access) : Standing :=
  if grants = [] then .silent
  else if Document.anyGrants permission grants then .allowed
  else .denied

@[simp]
theorem ofGrants_nil (permission : Permission) : ofGrants permission [] = .silent :=
  rfl

/-- One more mask is joined to the others. -/
theorem ofGrants_cons (permission : Permission) (mask : Access) (rest : List Access) :
    ofGrants permission (mask :: rest) =
      (if mask.has permission then allowed else denied).join (ofGrants permission rest) := by
  cases granted : mask.has permission with
  | true => simp [ofGrants, Document.anyGrants, granted, join]
  | false =>
      cases rest with
      | nil => simp [ofGrants, Document.anyGrants, granted]
      | cons other others =>
          have later : Document.anyGrants permission (mask :: other :: others) =
              Document.anyGrants permission (other :: others) := by
            simp [Document.anyGrants, granted]
          rw [ofGrants, if_neg (List.cons_ne_nil _ _), later, ofGrants,
            if_neg (List.cons_ne_nil _ _)]
          cases Document.anyGrants permission (other :: others) <;> rfl

/-- A mask that has a permission whenever another one has it leads to no worse standing. -/
theorem ofGrants_singleton_le {permission : Permission} {mask larger : Access}
    (includes : mask.has permission = true → larger.has permission = true) :
    ofGrants permission [mask] ≤ ofGrants permission [larger] := by
  rw [ofGrants_cons, ofGrants_cons, ofGrants_nil, join_silent, join_silent]
  by_cases granted : mask.has permission = true
  · rw [if_pos granted, if_pos (includes granted)]
  · rw [if_neg granted]
    exact denied_le _

/-- The standing from the masks of two lists is what their standings come to. -/
theorem ofGrants_append (permission : Permission) (left right : List Access) :
    ofGrants permission (left ++ right) =
      (ofGrants permission left).join (ofGrants permission right) := by
  induction left with
  | nil => simp
  | cons mask rest inductionHypothesis =>
      rw [List.cons_append, ofGrants_cons, ofGrants_cons, inductionHypothesis, join_assoc]

/-- Where some masks among others give way to masks that lead to no worse standing, all of them
together lead to no worse one. -/
theorem ofGrants_append_le {permission : Permission} {old new : List Access}
    (better : ofGrants permission old ≤ ofGrants permission new) (before after : List Access) :
    ofGrants permission (before ++ (old ++ after)) ≤
      ofGrants permission (before ++ (new ++ after)) := by
  simp only [ofGrants_append]
  apply join_le_join (le_refl _)
  exact join_le_join better (le_refl _)

theorem ofGrants_eq_denied_iff {permission : Permission} {grants : List Access} :
    ofGrants permission grants = .denied ↔
      grants ≠ [] ∧ Document.anyGrants permission grants = false := by
  cases grants with
  | nil => simp [ofGrants]
  | cons mask rest => cases granted : Document.anyGrants permission (mask :: rest) <;>
      simp [ofGrants, granted]

end Standing

namespace Document

variable (document : Document) (identity : Identity) (permission : Permission)

/-- The standing of an identity under a name. -/
def standingAt (name : String) : Standing :=
  .ofGrants permission (document.grantsAt identity name)

/-- The names that are looked at for a request: those on the way up to the root and, to read
recursively, those below the path. -/
def IsLookedAt (repository : String) (path : Path) (kind : AccessKind) (name : String) : Prop :=
  name ∈ candidates repository path ∨ kind = .readRecursive ∧ IsNameBelow repository path name

/-- The first of some names that has a word grants a permission when the first standing that is
not silent is the best one. -/
theorem exists_firstSpeaking?_and_anyGrants_iff_first (names : List String) :
    (∃ name, document.firstSpeaking? identity names = some name ∧
        anyGrants permission (document.grantsAt identity name) = true) ↔
      Standing.first (names.map (document.standingAt identity permission)) = .allowed := by
  induction names with
  | nil => simp [firstSpeaking?, Standing.first]
  | cons name rest inductionHypothesis =>
      rw [firstSpeaking?, List.find?_cons, List.map_cons]
      cases grants : document.grantsAt identity name with
      | nil =>
          simpa [firstSpeaking?, standingAt, Standing.ofGrants, Standing.first, grants]
            using inductionHypothesis
      | cons mask others =>
          cases granted : anyGrants permission (mask :: others) <;>
            simp [standingAt, Standing.ofGrants, Standing.first, grants, granted]

/-- No section of some names denies when the standing under none of them is a denial. -/
theorem forall_not_denies_iff {p : String → Prop} :
    (∀ part ∈ document.sections, p part.name → ¬ document.Denies identity permission part) ↔
      ∀ name, p name → document.standingAt identity permission name ≠ .denied := by
  constructor
  · intro undenied name isName denied
    rcases Standing.ofGrants_eq_denied_iff.1 denied with ⟨occupied, refused⟩
    cases found : document.section? name with
    | none => simp [grantsAt, found] at occupied
    | some part =>
        rcases section?_eq_some_iff.1 found with ⟨member, rfl⟩
        rw [grantsAt_of_mem identity member] at occupied refused
        exact undenied part member isName ⟨occupied, refused⟩
  · intro undenied part member isName denies
    apply undenied part.name isName
    rw [standingAt, Standing.ofGrants_eq_denied_iff, grantsAt_of_mem identity member]
    exact denies

theorem allows_some_iff_standing {repository text : String} {kind : AccessKind} :
    document.allows repository (some text) identity kind = true ↔
      Standing.first ((candidates repository (.ofText text)).map
          (document.standingAt identity kind.permission)) = .allowed ∧
        (kind = .readRecursive → ∀ name, IsNameBelow repository (.ofText text) name →
          document.standingAt identity kind.permission name ≠ .denied) := by
  rw [allows_some_iff, exists_firstSpeaking?_and_anyGrants_iff_first]
  apply and_congr_right
  intro _
  apply forall_congr'
  rintro rfl
  exact document.forall_not_denies_iff identity .read

variable {document identity}

/-- What is allowed stays allowed when the identity has no worse standing under any name that is
looked at. -/
theorem allows_of_standingAt_le {other : Document} {repository text : String} {kind : AccessKind}
    (better : ∀ name, IsLookedAt repository (.ofText text) kind name →
      document.standingAt identity kind.permission name ≤
        other.standingAt identity kind.permission name)
    (allowed : document.allows repository (some text) identity kind = true) :
    other.allows repository (some text) identity kind = true := by
  rw [allows_some_iff_standing] at allowed ⊢
  rcases allowed with ⟨granted, undenied⟩
  constructor
  · apply Standing.eq_allowed_of_le
    rw [← granted]
    apply Standing.first_map_le_first_map
    intro name isCandidate
    exact better name (Or.inl isCandidate)
  · intro recursive name nameBelow denied
    apply undenied recursive name nameBelow
    apply Standing.eq_denied_of_le
    rw [← denied]
    exact better name (Or.inr ⟨recursive, nameBelow⟩)

/-- Documents that grant an identity the same under every name that is looked at give the same
answer. -/
theorem allows_congr_of_grantsAt_eq {other : Document} {repository text : String}
    {kind : AccessKind}
    (same : ∀ name, IsLookedAt repository (.ofText text) kind name →
      document.grantsAt identity name = other.grantsAt identity name) :
    document.allows repository (some text) identity kind =
      other.allows repository (some text) identity kind := by
  have sameStanding : ∀ name, IsLookedAt repository (.ofText text) kind name →
      document.standingAt identity kind.permission name =
        other.standingAt identity kind.permission name := by
    intro name lookedAt
    rw [standingAt, standingAt, same name lookedAt]
  rw [Bool.eq_iff_iff]
  constructor
  · exact allows_of_standingAt_le fun name lookedAt => (sameStanding name lookedAt).le
  · exact allows_of_standingAt_le fun name lookedAt => (sameStanding name lookedAt).ge

end Document

end PathPolicy
