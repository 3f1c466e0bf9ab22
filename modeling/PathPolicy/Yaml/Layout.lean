import PathPolicy.Value
import PathPolicy.Yaml.Style

/-!
# The layout of an outline as a stream

A map is written as a block with one entry to a line, a list as a block of items
behind hyphens, and an empty collection between its brackets.  A block is indented
by two columns, but a list under a short key stands in the column of the key.  A
key that is too long, empty or broken into lines stands behind a question mark of
its own.
-/

namespace PathPolicy.Yaml

open Text (Outline)

/-- How many columns a block is indented by. -/
def indentation : Nat := 2

/-- The short tag of a text; it counts for the length of a key, though it is not written. -/
def textTag : String :=
  "!!str"

/-- A key and its tag have fewer characters than this if the key has no line of its
own. -/
def longestSimpleKey : Nat := 128

/-- The characters that end a line of a written text; a carriage return alone does not. -/
def endsWrittenLine (c : Char) : Bool :=
  isBreak c && c != '\r'

/-- Whether a key stands in front of its colon on one line. -/
def isSimpleKey (key : String) : Bool :=
  let written := key.toList
  !written.isEmpty && !written.any endsWrittenLine &&
    decide (textTag.length + written.length < longestSimpleKey)

/-- A new line up to a column. -/
def newLine (column : Nat) : List Char :=
  '\n' :: List.replicate column ' '

/-- Blocks of which each begins in a column, one below the other. -/
def stack (column : Nat) (blocks : List (List Char)) : List Char :=
  List.intercalate (newLine column) blocks

/-- A text behind an indicator that stands by itself in a column. -/
def writeMember (column : Nat) (content : String) : List Char :=
  ' ' :: Frame.write ⟨column + indentation, true⟩ (column + indentation) content.toList

mutual

/-- An outline behind an indicator that stands by itself in a column. -/
def writeNode (column : Nat) : Outline → List Char
  | .text content => writeMember column content
  | .list [] => " []".toList
  | .list items => ' ' :: stack (column + indentation) (writeItems (column + indentation) items)
  | .map [] => " \x7b\x7d".toList
  | .map entries =>
      ' ' :: stack (column + indentation) (writeEntries (column + indentation) entries)

/-- An outline behind a key that begins in a column and ends in another. -/
def writeUnder (column behind : Nat) : Outline → List Char
  | .text content =>
      ' ' :: Frame.write ⟨column + indentation, true⟩ (behind + 2) content.toList
  | .list [] => " []".toList
  | .list items => newLine column ++ stack column (writeItems column items)
  | .map [] => " \x7b\x7d".toList
  | .map entries =>
      newLine (column + indentation) ++
        stack (column + indentation) (writeEntries (column + indentation) entries)

/-- The items of a list that begins in a column. -/
def writeItems (column : Nat) : List Outline → List (List Char)
  | [] => []
  | item :: rest => ('-' :: writeNode column item) :: writeItems column rest

/-- The entries of a map that begins in a column. -/
def writeEntries (column : Nat) : List (String × Outline) → List (List Char)
  | [] => []
  | (key, value) :: rest =>
      let entry :=
        if isSimpleKey key then
          let written := Frame.write ⟨column + indentation, false⟩ column key.toList
          written ++ ':' :: writeUnder column (column + written.length) value
        else
          '?' :: writeMember column key ++ newLine column ++ ':' :: writeNode column value
      entry :: writeEntries column rest

end

/-- The stream that holds a map. -/
def write (entries : List (String × Outline)) : String :=
  String.ofList <|
    match entries with
    | [] => "\x7b\x7d\n".toList
    | entries => stack 0 (writeEntries 0 entries) ++ ['\n']

end PathPolicy.Yaml
