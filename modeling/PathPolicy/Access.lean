/-!
# Access masks

An access mask holds any of the two permissions, to read and to write.  In an
entry the permissions are letters: a letter that occurs grants its permission,
one that does not occur denies it.
-/

namespace PathPolicy

/-- One permission. -/
inductive Permission
  | read
  | write
  deriving DecidableEq, Repr

namespace Permission

/-- The letter that grants a permission. -/
def letter : Permission → Char
  | .read => 'r'
  | .write => 'w'

/-- The name of a permission. -/
def name : Permission → String
  | .read => "READ"
  | .write => "WRITE"

/-- Both permissions, in the order in which they are written. -/
def all : List Permission :=
  [.read, .write]

end Permission

/-- A set of permissions. -/
structure Access where
  read : Bool
  write : Bool
  deriving DecidableEq, Repr

namespace Access

/-- No permission. -/
def none : Access :=
  ⟨false, false⟩

/-- Both permissions. -/
def both : Access :=
  ⟨true, true⟩

/-- A single permission. -/
def only : Permission → Access
  | .read => ⟨true, false⟩
  | .write => ⟨false, true⟩

/-- Whether a permission belongs to the mask. -/
def has (access : Access) : Permission → Bool
  | .read => access.read
  | .write => access.write

/-- The permissions of either mask. -/
def union (left right : Access) : Access :=
  ⟨left.read || right.read, left.write || right.write⟩

/-- The permissions that are not in the mask. -/
def complement (access : Access) : Access :=
  ⟨!access.read, !access.write⟩

/-- Two masks meet when they share a permission. -/
def meets (left right : Access) : Bool :=
  (left.read && right.read) || (left.write && right.write)

/-- The mask as a number: one for reading and two for writing. -/
def toNat (access : Access) : Nat :=
  access.read.toNat + 2 * access.write.toNat

/-- The mask that a number stands for, if it is below four. -/
def ofNat? : Nat → Option Access
  | 0 => some none
  | 1 => some (only .read)
  | 2 => some (only .write)
  | 3 => some both
  | _ => Option.none

/-- The name of a mask in the log. -/
def name (access : Access) : String :=
  match access.read, access.write with
  | false, false => "NONE"
  | true, false => "READ"
  | false, true => "WRITE"
  | true, true => "READ|WRITE"

/-- What a permission text grants: every permission whose letter occurs in it. -/
def ofPermissions (permissions : String) : Access :=
  ⟨permissions.toList.contains 'r', permissions.toList.contains 'w'⟩

/-- The letters of the permissions in a mask. -/
def permissions (access : Access) : String :=
  String.ofList ((Permission.all.filter access.has).map Permission.letter)

@[simp]
theorem has_none (permission : Permission) : none.has permission = false := by
  cases permission <;> rfl

@[simp]
theorem has_complement (access : Access) (permission : Permission) :
    access.complement.has permission = !access.has permission := by
  cases permission <;> rfl

@[simp]
theorem has_union (left right : Access) (permission : Permission) :
    (left.union right).has permission = (left.has permission || right.has permission) := by
  cases permission <;> rfl

/-- Meeting a single permission is having it. -/
@[simp]
theorem meets_only (access : Access) (permission : Permission) :
    access.meets (only permission) = access.has permission := by
  cases permission <;> simp [meets, only, has]

/-- Masks with the same permissions are equal. -/
@[ext]
theorem ext {left right : Access} (same : ∀ permission, left.has permission = right.has permission) :
    left = right := by
  cases left
  cases right
  simpa [has] using And.intro (same .read) (same .write)

/-- The letters of a mask grant it again. -/
@[simp]
theorem ofPermissions_permissions (access : Access) :
    ofPermissions access.permissions = access := by
  obtain ⟨read, write⟩ := access
  simp only [ofPermissions, permissions, String.toList_ofList]
  cases read <;> cases write <;> decide

end Access

end PathPolicy
