import PathPolicy.Table
import PathPolicy.Text.Pieces
import PathPolicy.Text.Quoted
import PathPolicy.Text.Utf8

/-!
# File trees

A file tree holds files and directories, by what leads to them from one working directory
or from the root.  A file name is followed part by part from one of the two; every part
but the last must be a directory.
-/

namespace PathPolicy

/-- Why a file cannot be read or written; a tree knows all of the reasons but the last. -/
inductive FileFault
  | notFound
  | notDirectory
  | isDirectory
  | nameTooLong
  | nullInName
  | other (number : Nat) (words : String)
  deriving DecidableEq, Repr

namespace FileFault

/-- The number and the words of a fault that the system reports about a file. -/
def report? : FileFault → Option (Nat × String)
  | .notFound => some (2, "No such file or directory")
  | .notDirectory => some (20, "Not a directory")
  | .isDirectory => some (21, "Is a directory")
  | .nameTooLong => some (36, "File name too long")
  | .nullInName => none
  | .other number words => some (number, words)

/-- The fault in words, with the name of the file. -/
def message (fault : FileFault) (name : String) : String :=
  match fault.report? with
  | some (number, words) => "[Errno " ++ toString number ++ "] " ++ words ++ ": " ++ Text.quoted name
  | none => "embedded null byte"

end FileFault

/-- A file with its bytes, or a directory. -/
inductive FileNode
  | file (bytes : List UInt8)
  | directory
  deriving DecidableEq, Repr

/-- Files and directories by the names that lead to them; the directories above a
file need not be listed. -/
abbrev FileTree := Table (List String) FileNode

namespace FileTree

/-- The parts of a spelled name, the empty ones included. -/
def partsOf (name : String) : List String :=
  (Text.splitAt '/' name.toList).map String.ofList

/-- The place that a name starts from. -/
def startOf (name : String) : List String :=
  if name.toList.head? = some '/' then ["/"] else []

/-- The working directory, what lies above it and the root are directories. -/
def isSurrounding (place : List String) : Bool :=
  place == ["/"] || place.all (· == "..")

/-- What is at a place: whatever is listed there, or a directory if something is
listed below. -/
def node? (tree : FileTree) (place : List String) : Option FileNode :=
  if isSurrounding place then some .directory
  else
    match tree.get? place with
    | some node => some node
    | none => if tree.any fun entry => place.isPrefixOf entry.1 then some .directory else none

/-- The place above a place. -/
def above (place : List String) : List String :=
  if place = ["/"] then place
  else if place.all (· == "..") then place ++ [".."]
  else place.dropLast

/-- The longest name that a part may have, in bytes. -/
def longestPart : Nat := 255

/-- The longest name, in bytes. -/
def longestName : Nat := 4095

/-- Follows the parts of a name from a place; what is passed must be a directory. -/
def follow (tree : FileTree) (place : List String) : List String → Except FileFault (List String)
  | [] => .ok place
  | part :: rest =>
      match tree.node? place with
      | none => .error .notFound
      | some (.file _) => .error .notDirectory
      | some .directory =>
          if part = "" ∨ part = "." then tree.follow place rest
          else if part = ".." then tree.follow (above place) rest
          else if longestPart < part.utf8ByteSize then .error .nameTooLong
          else tree.follow (place ++ [part]) rest

/-- The place that a name leads to, which may be empty. -/
def place (tree : FileTree) (name : String) : Except FileFault (List String) :=
  if name = "" then .error .notFound
  else if name.toList.contains '\x00' then .error .nullInName
  else if longestName < name.utf8ByteSize then .error .nameTooLong
  else tree.follow (startOf name) (partsOf name)

/-- What a name leads to. -/
def find (tree : FileTree) (name : String) : Except FileFault FileNode := do
  match tree.node? (← tree.place name) with
  | some node => .ok node
  | none => .error .notFound

/-- Whether a name leads to something. -/
def holds (tree : FileTree) (name : String) : Bool :=
  match tree.find name with
  | .ok _ => true
  | .error _ => false

/-- The bytes of a file. -/
def read (tree : FileTree) (name : String) : Except FileFault (List UInt8) := do
  match ← tree.find name with
  | .file bytes => .ok bytes
  | .directory => .error .isDirectory

/-- The tree with a file written under a name, in a directory that exists. -/
def write (tree : FileTree) (name : String) (bytes : List UInt8) : Except FileFault FileTree := do
  let place ← tree.place name
  match tree.node? place with
  | some .directory => .error .isDirectory
  | _ => .ok (tree.put place (.file bytes))

/-- What a name starts from and the parts of it that lead somewhere else. -/
def keyOf (name : String) : List String :=
  startOf name ++ (partsOf name).filter fun part => part != "" && part != "."

/-- The tree with the directories listed in which a place lies. -/
def withDirectories (tree : FileTree) (place : List String) : FileTree :=
  (List.range place.length).foldl
    (fun reached depth =>
      let directory := place.take depth
      if (reached.node? directory).isSome then reached else reached.put directory .directory)
    tree

/-- The tree with a node under a name, whatever was there, and with the directories
that it lies in. -/
def insert (tree : FileTree) (name : String) (node : FileNode) : FileTree :=
  (tree.withDirectories (keyOf name)).put (keyOf name) node

/-- The tree without what a name leads to. -/
def erase (tree : FileTree) (name : String) : FileTree :=
  tree.remove (keyOf name)

end FileTree

end PathPolicy
