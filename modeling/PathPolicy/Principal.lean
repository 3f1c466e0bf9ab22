import PathPolicy.Text.Pieces

/-!
# Principals

A principal says whom an entry is for: anyone, one user or one group.  Users and
groups have a name that is not empty.  As text a star stands for anyone, a name
behind an at sign for a group, and any other text for a user.
-/

namespace PathPolicy

/-- The name of a user or a group: any text but the empty one. -/
abbrev Name := { text : String // text ≠ "" }

/-- Whom an entry is for. -/
inductive Principal
  | anyone
  | user (name : Name)
  | group (name : Name)
  deriving DecidableEq, Repr

namespace Principal

/-- The three kinds of principals. -/
inductive Kind
  | anyone
  | user
  | group
  deriving DecidableEq, Repr

/-- The word for a kind. -/
def Kind.word : Kind → String
  | .anyone => "anyone"
  | .user => "user"
  | .group => "group"

/-- The kind that a word names. -/
def Kind.ofWord? (word : String) : Option Kind :=
  [Kind.anyone, Kind.user, Kind.group].find? fun kind => kind.word == word

/-- Why a kind and a name do not make a principal. -/
inductive Fault
  | needless
  | unnamed (kind : Kind)
  deriving DecidableEq, Repr

/-- The fault in words. -/
def Fault.message : Fault → String
  | .needless => "The anyone principal takes no name"
  | .unnamed kind => "A " ++ kind.word ++ " principal needs a name"

/-- The principal of a kind with a name; anyone has the empty name. -/
def ofKind (kind : Kind) (name : String) : Except Fault Principal :=
  match kind with
  | .anyone => if name = "" then .ok .anyone else .error .needless
  | .user => if named : name ≠ "" then .ok (.user ⟨name, named⟩) else .error (.unnamed .user)
  | .group => if named : name ≠ "" then .ok (.group ⟨name, named⟩) else .error (.unnamed .group)

/-- The kind of a principal. -/
def kind : Principal → Kind
  | .anyone => .anyone
  | .user _ => .user
  | .group _ => .group

/-- The name of a principal, empty for anyone. -/
def name : Principal → String
  | .anyone => ""
  | .user name => name.val
  | .group name => name.val

/-- The text of a principal. -/
def text : Principal → String
  | .anyone => "*"
  | .user name => name.val
  | .group name => "@" ++ name.val

/-- The kind and the name that a trimmed text stands for. -/
def readToken (token : List Char) : Kind × List Char :=
  if token = ['*'] then (.anyone, [])
  else
    match token with
    | [] => (.user, [])
    | c :: rest => if c = '@' then (.group, rest) else (.user, c :: rest)

/-- The principal that a text stands for; blanks around it do not matter. -/
def parse (token : String) : Except Fault Principal :=
  let (kind, name) := readToken (Text.trim token.toList)
  ofKind kind (String.ofList name)

/-- A principal is made again from its kind and its name. -/
@[simp]
theorem ofKind_kind_name (principal : Principal) :
    ofKind principal.kind principal.name = .ok principal := by
  cases principal with
  | anyone => simp [ofKind, kind, name]
  | user name => simp [ofKind, kind, Principal.name, name.property]
  | group name => simp [ofKind, kind, Principal.name, name.property]

/-- Making a principal succeeds exactly for the anyone kind without a name and for
the other kinds with one. -/
theorem ofKind_eq_ok_iff {kind : Kind} {name : String} {principal : Principal} :
    ofKind kind name = .ok principal ↔ principal.kind = kind ∧ principal.name = name := by
  constructor
  · intro made
    cases kind <;> simp only [ofKind] at made <;> split at made <;> cases made <;>
      simp_all [Principal.kind, Principal.name]
  · rintro ⟨rfl, rfl⟩
    exact ofKind_kind_name principal

end Principal

end PathPolicy
