import PathPolicy.Access

/-!
# Requests

A request asks whether an identity may access a path of a repository.  The path
may be unknown.  Reading recursively means reading the path and everything below
it.
-/

namespace PathPolicy

/-- Who asks. -/
inductive Identity
  | anonymous
  | named (name : String)
  deriving DecidableEq, Repr

namespace Identity

/-- The identity of a name, if there is one. -/
def ofName? : Option String → Identity
  | none => .anonymous
  | some name => .named name

/-- Whether the identity has no name. -/
def isAnonymous : Identity → Bool
  | .anonymous => true
  | .named _ => false

/-- The text of an identity. -/
def text : Identity → String
  | .anonymous => "(anonymous)"
  | .named name => name

end Identity

/-- What is asked for. -/
inductive AccessKind
  | read
  | write
  | readRecursive
  deriving DecidableEq, Repr

namespace AccessKind

/-- The name of a kind. -/
def name : AccessKind → String
  | .read => "READ"
  | .write => "WRITE"
  | .readRecursive => "READ_RECURSIVE"

/-- The kind that a name stands for. -/
def ofName? (name : String) : Option AccessKind :=
  [AccessKind.read, .write, .readRecursive].find? fun kind => kind.name == name

/-- The permission that a kind needs. -/
def permission : AccessKind → Permission
  | .write => .write
  | .read => .read
  | .readRecursive => .read

/-- The mask of the permission that a kind needs. -/
def required (kind : AccessKind) : Access :=
  .only kind.permission

end AccessKind

/-- A question to a policy. -/
structure Request where
  repository : String
  path : Option String
  identity : Identity
  kind : AccessKind
  deriving DecidableEq, Repr

end PathPolicy
