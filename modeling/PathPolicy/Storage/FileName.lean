import PathPolicy.Text.Pieces

/-!
# File names

A file name is shown in its normal spelling: without doubled slashes, without
parts that mean the same directory and without a slash at the end.  A name that
begins with exactly two slashes keeps them.  The suffix of a name decides whether
a file holds a snapshot.
-/

namespace PathPolicy

/-- A file name: what it starts from and the parts below that. -/
structure FileName where
  anchor : String
  parts : List String
  deriving DecidableEq, Repr

namespace FileName

/-- What a name starts from: two slashes, one slash, or the working directory. -/
def anchorOf (characters : List Char) : String :=
  match (characters.takeWhile (· == '/')).length with
  | 0 => ""
  | 2 => "//"
  | _ => "/"

/-- The name that a text spells. -/
def ofText (text : String) : FileName where
  anchor := anchorOf text.toList
  parts :=
    ((Text.splitAt '/' text.toList).filter fun part =>
      !part.isEmpty && part != ['.']).map String.ofList

/-- The normal spelling of a name; the working directory is a single point. -/
def text (name : FileName) : String :=
  let spelled := name.anchor ++ String.intercalate "/" name.parts
  if spelled = "" then "." else spelled

/-- The suffix of a name: its last part from the last point on, unless that point is
the first or the last character. -/
def suffix (name : FileName) : String :=
  match name.parts.getLast? with
  | none => ""
  | some part =>
      let characters := part.toList
      let behind := (characters.reverse.takeWhile (· != '.')).reverse
      let before := characters.length - behind.length
      if 2 ≤ before ∧ behind ≠ [] then String.ofList ('.' :: behind) else ""

/-- Whether a file of this name holds a snapshot. -/
def isSnapshot (name : FileName) : Bool :=
  name.suffix == ".yaml" || name.suffix == ".yml"

end FileName

/-- The home directories of users by their names, as far as they are known; the empty name
is that of whoever runs the program. -/
abbrev Homes := String → Option String

namespace FileName

/-- The character in front of the name of a user whose home directory is meant. -/
def tilde : Char := '~'

/-- A home directory without slashes at its end, which is never empty. -/
def homeText (home : String) : String :=
  let kept := (home.toList.reverse.dropWhile (· == '/')).reverse
  if kept.isEmpty then "/" else String.ofList kept

/-- The name of some parts below the home directory of a user, if that is known and does not
begin with a tilde itself. -/
def below (homes : Homes) (user : String) (rest : List String) : Option FileName :=
  match (homes user).map homeText with
  | none => none
  | some home =>
      if home.toList.head? = some tilde then none
      else some ⟨(ofText home).anchor, (ofText home).parts ++ rest⟩

/-- The name with a home directory in place of a first part that begins with a tilde; nothing
if that home directory is not known. -/
def expanded? (homes : Homes) (name : FileName) : Option FileName :=
  match name.parts with
  | [] => some name
  | part :: rest =>
      if name.anchor = "" ∧ part.toList.head? = some tilde then
        below homes (String.ofList part.toList.tail) rest
      else some name

end FileName

end PathPolicy
