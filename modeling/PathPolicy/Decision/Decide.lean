import PathPolicy.Decision.Verdict
import PathPolicy.Path

/-!
# Decisions

The nearest section with a word on the identity decides.  At each level, from the path up to
the root, the section for this repository only comes before the section for all
repositories; where every level is silent nothing is found.  Reading recursively is vetoed by
any section below the path that denies reading, each section judged by itself.  Below means
that the name of the section begins with the path, character by character, so a longer last
segment counts as well.  A request for an unknown path is always allowed and left to other
checks.
-/

namespace PathPolicy

/-! ## The nearest section -/

/-- Which section decides and what it says; or that none does, or that the path is
not known. -/
inductive Resolution
  | decided (sectionName : String) (allowed : Bool)
  | silent
  | pathUnknown
  deriving DecidableEq, Repr

namespace Resolution

/-- Whether a section decides. -/
def isFound : Resolution → Bool
  | .decided _ _ => true
  | _ => false

/-- What is silent is denied; an unknown path is left to other checks. -/
def isAllowed : Resolution → Bool
  | .decided _ allowed => allowed
  | .silent => false
  | .pathUnknown => true

/-- The name of the section that decides. -/
def sectionName? : Resolution → Option String
  | .decided sectionName _ => some sectionName
  | _ => none

end Resolution

namespace Document

/-- The first of some sections, by name, that has a decision. -/
def firstDecision (document : Document) (identity : Identity) (access : Access) :
    List String → Traced Step Resolution
  | [] => pure .silent
  | name :: rest => do
      let verdict ← document.evaluate (document.section? name) identity
      if verdict.hasDecision access then pure (.decided name (verdict.allows access))
      else document.firstDecision identity access rest

/-- The names of the sections for one level, the one for the repository in front. -/
def namesAt (repository path : String) : List String :=
  [qualifiedName repository path, path]

/-- What the sections for one level say. -/
def resolveAt (document : Document) (repository path : String) (identity : Identity)
    (access : Access) : Traced Step Resolution :=
  document.firstDecision identity access (namesAt repository path)

/-- What the first of some levels says that is not silent. -/
def climb (document : Document) (repository : String) (identity : Identity) (access : Access) :
    List Path → Traced Step Resolution
  | [] => pure .silent
  | level :: above => do
      match ← document.resolveAt repository level.text identity access with
      | .silent => document.climb repository identity access above
      | resolution => pure resolution

/-- The step that a resolution is reported as. -/
def resolutionStep (repository path : String) (identity : Identity) (access : Access) :
    Resolution → Step
  | .decided sectionName allowed => .decided identity access repository path sectionName allowed
  | _ => .undecided identity access repository path

/-- What the nearest section above a path says, the path included. -/
def resolvePath (document : Document) (repository : String) (path : Path) (identity : Identity)
    (access : Access) : Traced Step Resolution := do
  let resolution ← document.climb repository identity access path.lineage
  Traced.note (resolutionStep repository path.text identity access resolution)
  pure resolution

/-- What the nearest section says on a path in any spelling, or on an unknown one. -/
def resolve (document : Document) (repository : String) (path? : Option String)
    (identity : Identity) (access : Access) : Traced Step Resolution :=
  match path? with
  | none => pure .pathUnknown
  | some path => document.resolvePath repository (.ofText path) identity access

end Document

/-! ## Vetoes from below -/

namespace Document

/-- The first of some sections that does not allow an access. -/
def firstDenial (document : Document) (identity : Identity) (access : Access) :
    List Section → Traced Step (Option String)
  | [] => pure none
  | part :: rest => do
      let verdict ← document.evaluate (some part) identity
      if verdict.allows access then document.firstDenial identity access rest
      else pure (some part.name)

/-- The sections below a path: those for the repository, then those for all. -/
def sectionsBelow (document : Document) (repository : String) (path : Path) : List Section :=
  document.sectionsWithPrefix (qualifiedName repository path.text) ++
    document.sectionsWithPrefix path.text

/-- The name of the first section below a path that denies an access. -/
def denyingSection (document : Document) (repository path : String) (identity : Identity)
    (access : Access) : Traced Step (Option String) := do
  let path := Path.ofText path
  match ← document.firstDenial identity access (document.sectionsBelow repository path) with
  | none => pure none
  | some sectionName => do
      Traced.note (.vetoed identity access repository path.text sectionName)
      pure (some sectionName)

/-- Whether a section below a path denies an access. -/
def anyBelowDenies (document : Document) (repository path : String) (identity : Identity)
    (access : Access) : Traced Step Bool :=
  Option.isSome <$> document.denyingSection repository path identity access

end Document

/-! ## Decisions -/

namespace Document

/-- Whether an identity may access a path. -/
def decideTraced (document : Document) (repository : String) (path? : Option String)
    (identity : Identity) (kind : AccessKind) : Traced Step Bool :=
  match path? with
  | none => pure true
  | some path => do
      let resolution ← document.resolve repository (some path) identity kind.required
      match kind, resolution.isAllowed with
      | .readRecursive, true =>
          Bool.not <$> document.anyBelowDenies repository path identity kind.required
      | _, allowed => pure allowed

/-- Whether a document allows a request. -/
def check (document : Document) (request : Request) : Traced Step Bool :=
  document.decideTraced request.repository request.path request.identity request.kind

/-- Whether an identity may access a path, without the steps. -/
def allows (document : Document) (repository : String) (path? : Option String)
    (identity : Identity) (kind : AccessKind) : Bool :=
  (document.decideTraced repository path? identity kind).value

end Document

end PathPolicy
