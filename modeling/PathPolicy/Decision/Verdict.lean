import PathPolicy.Document
import PathPolicy.Log
import PathPolicy.Request
import PathPolicy.Text.Quoted

/-!
# Verdicts

On the way to a decision entries apply, a section decides or none does, and a section below
a path may veto; each of these is a step that a detailed log can show.  The verdict of a
section on an identity collects what the applying entries grant and deny.  A grant anywhere
outranks every denial.  A section in which no entry applies is silent, and so is a section
that does not exist.
-/

namespace PathPolicy

/-! ## Steps -/

/-- What happens on the way to a decision. -/
inductive Step
  | applied (sectionName : String) (entry : Entry) (allow deny : Access)
  | decided (identity : Identity) (access : Access) (repository path sectionName : String)
      (allowed : Bool)
  | undecided (identity : Identity) (access : Access) (repository path : String)
  | vetoed (identity : Identity) (access : Access) (repository path sectionName : String)
  deriving DecidableEq, Repr

namespace Step

/-- The words in front of a step about a path. -/
def subject (identity : Identity) (access : Access) (preposition repository path : String) :
    String :=
  identity.text ++ " " ++ access.name ++ preposition ++ repository ++ ":" ++ path

/-- The record of a step. -/
def record : Step → Record
  | .applied sectionName entry allow deny =>
      ⟨.debug, .evaluator,
        "[" ++ sectionName ++ "] " ++ entry.principal.text ++ " = " ++ entry.permissions ++
          " => allow = " ++ toString allow.toNat ++ ", deny = " ++ toString deny.toNat⟩
  | .decided identity access repository path sectionName allowed =>
      ⟨.debug, .hierarchy,
        subject identity access " " repository path ++ " decided by [" ++ sectionName ++ "]: " ++
          Text.truthWord allowed⟩
  | .undecided identity access repository path =>
      ⟨.debug, .hierarchy, subject identity access " " repository path ++ ": no rule, denying"⟩
  | .vetoed identity access repository path sectionName =>
      ⟨.debug, .subtree,
        subject identity access " below " repository path ++ " vetoed by [" ++ sectionName ++ "]"⟩

end Step

/-! ## Verdicts -/

/-- What is granted and what is denied to one identity. -/
structure Verdict where
  allow : Access
  deny : Access
  deriving DecidableEq, Repr

namespace Verdict

/-- The verdict without a word. -/
def silent : Verdict :=
  ⟨.none, .none⟩

/-- A verdict speaks on a mask when it grants or denies a part of it. -/
def hasDecision (verdict : Verdict) (access : Access) : Bool :=
  (verdict.allow.union verdict.deny).meets access

/-- A verdict allows what it does not deny and what it grants as well. -/
def allows (verdict : Verdict) (access : Access) : Bool :=
  !verdict.deny.meets access || verdict.allow.meets access

/-- The verdict together with one more entry. -/
def withEntry (verdict : Verdict) (entry : Entry) : Verdict :=
  ⟨verdict.allow.union entry.grants, verdict.deny.union entry.denies⟩

end Verdict

namespace Document

/-- Whether an entry is for an identity.  Everyone is anyone; users and members of
groups have a name, and it is compared as it stands. -/
def applies (document : Document) (entry : Entry) (identity : Identity) : Bool :=
  match entry.principal, identity with
  | .anyone, _ => true
  | _, .anonymous => false
  | .user user, .named name => user.val == name
  | .group group, .named name => decide (name ∈ document.groupMembers group.val)

/-- The verdict of the entries of a section behind a verdict already reached. -/
def collect (document : Document) (identity : Identity) (sectionName : String) :
    List Entry → Verdict → Traced Step Verdict
  | [], verdict => pure verdict
  | entry :: rest, verdict =>
      if document.applies entry identity then do
        let reached := verdict.withEntry entry
        Traced.note (.applied sectionName entry reached.allow reached.deny)
        document.collect identity sectionName rest reached
      else document.collect identity sectionName rest verdict

/-- The verdict of a section, if there is one, on an identity. -/
def evaluate (document : Document) (part? : Option Section) (identity : Identity) :
    Traced Step Verdict :=
  match part? with
  | none => pure .silent
  | some part => document.collect identity part.name part.entries .silent

/-- The members of a group among whom an identity is looked up. -/
def isMember (document : Document) (group : String) (identity : Identity) : Bool :=
  match identity with
  | .anonymous => false
  | .named name => decide (name ∈ document.groupMembers group)

/-- The entries of a list that apply to an identity. -/
def applying (document : Document) (entries : List Entry) (identity : Identity) : List Entry :=
  entries.filter fun entry => document.applies entry identity

/-- Collecting passes over the entries that do not apply. -/
theorem value_collect (document : Document) (identity : Identity) (sectionName : String)
    (entries : List Entry) (verdict : Verdict) :
    (document.collect identity sectionName entries verdict).value =
      (document.applying entries identity).foldl Verdict.withEntry verdict := by
  induction entries generalizing verdict with
  | nil => rfl
  | cons entry rest inductionHypothesis =>
      rw [collect]
      by_cases forMe : document.applies entry identity
      · simp [forMe, applying, inductionHypothesis]
      · simp [forMe, applying, inductionHypothesis]

end Document

end PathPolicy
