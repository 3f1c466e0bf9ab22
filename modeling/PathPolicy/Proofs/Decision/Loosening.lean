import Mathlib.Logic.Relation
import PathPolicy.Proofs.Decision.Edits
import PathPolicy.Proofs.Decision.Standing

/-!
# Loosening a policy

A policy is loosened when an entry grants one permission more, when an entry comes in that
grants everything, or when an entry or a section goes that grants nothing.  Such an edit can
make a silent section speak, or silence one that denied, and so move the decision to another
level; it can lift a veto as well.  The main statement is that no number of such edits closes
anything: they let no standing fall, and what is allowed stays allowed.
-/

namespace PathPolicy

/-- How the entries at one place of a section are loosened. -/
inductive LoosensEntries : List Entry → List Entry → Prop
  | addPermission (principal : Principal) (grants : Access) (permission : Permission) :
      LoosensEntries [⟨principal, grants⟩] [⟨principal, grants.union (.only permission)⟩]
  | insertOpen (principal : Principal) : LoosensEntries [] [⟨principal, .both⟩]
  | deleteClosed (principal : Principal) : LoosensEntries [⟨principal, .none⟩] []

/-- How the sections at one place of a document are loosened: by its entries, or by a whole
section that only opens or only closes. -/
inductive LoosensSections : List Section → List Section → Prop
  | editEntries (name : String) (before old new after : List Entry)
      (loosens : LoosensEntries old new) :
      LoosensSections [⟨name, before ++ (old ++ after)⟩] [⟨name, before ++ (new ++ after)⟩]
  | insertOpen (part : Section) (isOpen : ∀ entry ∈ part.entries, entry.grants = .both) :
      LoosensSections [] [part]
  | deleteClosed (part : Section) (isClosed : ∀ entry ∈ part.entries, entry.grants = .none) :
      LoosensSections [part] []

namespace Document

variable {document : Document} {identity : Identity} {permission : Permission}

/-! ## One edit -/

theorem silent_le_ofGrants_grantsOf {entries : List Entry}
    (isOpen : ∀ entry ∈ entries, entry.grants = .both) :
    .silent ≤ Standing.ofGrants permission (document.grantsOf identity entries) := by
  induction entries with
  | nil => exact le_refl _
  | cons entry rest inductionHypothesis =>
      rw [List.forall_mem_cons] at isOpen
      rcases isOpen with ⟨grantsBoth, restOpen⟩
      rw [grantsOf_cons, Standing.ofGrants_append, ← Standing.silent_join .silent, grantsBoth]
      apply Standing.join_le_join _ (inductionHypothesis restOpen)
      cases document.applies entry identity <;> cases permission <;> decide

theorem ofGrants_grantsOf_le_silent {entries : List Entry}
    (isClosed : ∀ entry ∈ entries, entry.grants = .none) :
    Standing.ofGrants permission (document.grantsOf identity entries) ≤ .silent := by
  induction entries with
  | nil => exact le_refl _
  | cons entry rest inductionHypothesis =>
      rw [List.forall_mem_cons] at isClosed
      rcases isClosed with ⟨grantsNothing, restClosed⟩
      rw [grantsOf_cons, Standing.ofGrants_append, ← Standing.silent_join .silent, grantsNothing]
      apply Standing.join_le_join _ (inductionHypothesis restClosed)
      cases document.applies entry identity <;> cases permission <;> decide

/-- No standing falls that comes from entries which are loosened. -/
theorem ofGrants_grantsOf_le_of_loosensEntries {old new : List Entry}
    (loosens : LoosensEntries old new) :
    Standing.ofGrants permission (document.grantsOf identity old) ≤
      Standing.ofGrants permission (document.grantsOf identity new) := by
  cases loosens with
  | addPermission principal grants added =>
      have samePrincipal : document.applies ⟨principal, grants.union (.only added)⟩ identity =
          document.applies ⟨principal, grants⟩ identity := rfl
      rw [grantsOf_cons, grantsOf_cons, samePrincipal]
      cases document.applies ⟨principal, grants⟩ identity with
      | false => exact le_refl _
      | true =>
          apply Standing.ofGrants_singleton_le
          intro granted
          rw [Access.has_union, granted, Bool.true_or]
  | insertOpen principal => exact silent_le_ofGrants_grantsOf (by simp)
  | deleteClosed principal => exact ofGrants_grantsOf_le_silent (by simp)

/-- No standing falls that comes from sections which are loosened. -/
theorem ofGrants_grantsUnder_le_of_loosensSections {old new : List Section}
    (loosens : LoosensSections old new) (name : String) :
    Standing.ofGrants permission (document.grantsUnder identity name old) ≤
      Standing.ofGrants permission (document.grantsUnder identity name new) := by
  cases loosens with
  | editEntries called before old new after loosensEntries =>
      rw [grantsUnder_singleton, grantsUnder_singleton]
      by_cases same : called = name
      · rw [if_pos same, if_pos same]
        simp only [grantsOf_append]
        apply Standing.ofGrants_append_le
        exact ofGrants_grantsOf_le_of_loosensEntries loosensEntries
      · rw [if_neg same, if_neg same]
  | insertOpen part isOpen =>
      rw [grantsUnder_singleton]
      split
      · exact silent_le_ofGrants_grantsOf isOpen
      · exact le_refl _
  | deleteClosed part isClosed =>
      rw [grantsUnder_singleton]
      split
      · exact ofGrants_grantsOf_le_silent isClosed
      · exact le_refl _

theorem EditedBy.standingAt_le {edited : Document}
    (edit : document.EditedBy LoosensSections edited) (name : String) :
    document.standingAt identity permission name ≤ edited.standingAt identity permission name := by
  rcases edit.exists_grantsAt_eq identity name with
    ⟨old, new, loosens, before, after, source, result⟩
  rw [standingAt, standingAt, source, result]
  apply Standing.ofGrants_append_le
  exact ofGrants_grantsUnder_le_of_loosensSections loosens name

/-! ## Any number of edits -/

theorem standingAt_le_of_loosened {loosened : Document}
    (edits : Relation.ReflTransGen (EditedBy LoosensSections) document loosened) (name : String) :
    document.standingAt identity permission name ≤
      loosened.standingAt identity permission name := by
  induction edits with
  | refl => exact le_refl _
  | tail _ edit inductionHypothesis => exact le_trans inductionHypothesis (edit.standingAt_le name)

/-- Whatever a document allows, it still allows after any number of loosening edits. -/
theorem allows_of_loosened {loosened : Document}
    (edits : Relation.ReflTransGen (EditedBy LoosensSections) document loosened)
    {repository : String} {path? : Option String} {kind : AccessKind}
    (allowed : document.allows repository path? identity kind = true) :
    loosened.allows repository path? identity kind = true := by
  cases path? with
  | none => rfl
  | some text =>
      apply allows_of_standingAt_le _ allowed
      intro name _
      exact standingAt_le_of_loosened edits name

theorem bob_ne_empty : "bob" ≠ "" := by decide

/-- A policy in which everyone may read everything but bob, who is kept out of one path. -/
def barredToBob : Document where
  sections := [⟨"/", [⟨.anyone, .only .read⟩]⟩, ⟨"/a", [⟨.user ⟨"bob", bob_ne_empty⟩, .none⟩]⟩]
  groups := []
  unreserved := by decide
  sectionsDistinct := by decide
  groupsDistinct := List.nodup_nil

/-- The same policy with the path opened to all. -/
def reopened : Document where
  sections :=
    [⟨"/", [⟨.anyone, .only .read⟩]⟩,
      ⟨"/a", [⟨.anyone, .both⟩, ⟨.user ⟨"bob", bob_ne_empty⟩, .none⟩]⟩]
  groups := []
  unreserved := by decide
  sectionsDistinct := by decide
  groupsDistinct := List.nodup_nil

/-- The same policy without the entry for bob. -/
def openToAll : Document where
  sections := [⟨"/", [⟨.anyone, .only .read⟩]⟩, ⟨"/a", [⟨.anyone, .both⟩]⟩]
  groups := []
  unreserved := by decide
  sectionsDistinct := by decide
  groupsDistinct := List.nodup_nil

/-- The path that alice may read because of the root is decided by a section of its own after
two edits, and she may still read it. -/
theorem openToAll_allows_alice :
    (Relation.ReflTransGen (EditedBy LoosensSections) barredToBob openToAll ∧
      barredToBob.allows "repo" (some "a") (.named "alice") .readRecursive = true) ∧
    openToAll.allows "repo" (some "a") (.named "alice") .readRecursive = true := by
  have inserted : barredToBob.EditedBy LoosensSections reopened :=
    ⟨rfl, [⟨"/", [⟨.anyone, .only .read⟩]⟩], _, _, [],
      .editEntries "/a" [] [] _ [⟨.user ⟨"bob", bob_ne_empty⟩, .none⟩] (.insertOpen .anyone),
      rfl, rfl⟩
  have deleted : reopened.EditedBy LoosensSections openToAll :=
    ⟨rfl, [⟨"/", [⟨.anyone, .only .read⟩]⟩], _, _, [],
      .editEntries "/a" [⟨.anyone, .both⟩] _ [] [] (.deleteClosed (.user ⟨"bob", bob_ne_empty⟩)),
      rfl, rfl⟩
  have edits : Relation.ReflTransGen (EditedBy LoosensSections) barredToBob openToAll :=
    (Relation.ReflTransGen.single inserted).tail deleted
  have allowed : barredToBob.allows "repo" (some "a") (.named "alice") .readRecursive = true := by
    decide +kernel
  exact ⟨⟨edits, allowed⟩, allows_of_loosened edits allowed⟩

end Document

end PathPolicy
