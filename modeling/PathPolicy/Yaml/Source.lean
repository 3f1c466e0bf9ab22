import PathPolicy.Calendar
import PathPolicy.Number.Integer
import PathPolicy.Text.Feed
import PathPolicy.Text.Quoted
import PathPolicy.Text.Utf8

/-!
# The characters of a stream

The bytes of a stream are read piece by piece, and each piece is looked through for
characters that a stream may not hold.  A fault in one piece shows only when a reader
gets there, so the characters in front of it are of use.  A cursor is a place in a stream:
the characters that follow, how many came before, how many there are in all, and the line
and the column; a byte order mark takes no column.  What is not well formed is not told in
detail.
-/

namespace PathPolicy.Yaml

/-! ## Faults -/

/-- Why a stream cannot be read: it is not well formed, it ends inside of a token, its
bytes are no characters, an escape is none, a scalar is not what its tag says, or
collections lie too deep inside each other. -/
inductive Fault
  | malformed
  | unfinished
  | encoding (fault : Text.Utf8.Fault)
  | noCharacter (code : Nat)
  | noInteger (base : Nat) (text : String)
  | tooManyDigits (count : Nat)
  | noReal (text : String)
  | realTooLarge
  | emptyNumeral
  | unknownWord (word : String)
  | noDate
  | noText
  | date (fault : CalendarFault)
  | tooDeep
  deriving DecidableEq, Repr

namespace Fault

/-- Of a text that is no integer so many quoted characters are shown. -/
def longestShown : Nat := 200

/-- Codes from this one on are no integers of the machine. -/
def machineBound : Nat := Nat.pow 2 31

/-- The fault in words. -/
def message : Fault → String
  | .malformed => "<yaml error>"
  | .unfinished => "<yaml error>"
  | .encoding fault => fault.message
  | .noCharacter code =>
      if code < machineBound then "chr() arg not in range(0x110000)"
      else "Python int too large to convert to C int"
  | .noInteger base text =>
      "invalid literal for int() with base " ++ toString base ++ ": " ++
        String.ofList ((Text.quoted text).toList.take longestShown)
  | .tooManyDigits count => Number.tooManyDigits (some count)
  | .noReal text => "could not convert string to float: " ++ Text.quoted text
  | .realTooLarge => "int too large to convert to float"
  | .emptyNumeral => "string index out of range"
  | .unknownWord word => Text.quoted word
  | .noDate => "'NoneType' object has no attribute 'groupdict'"
  | .noText => "expected string or bytes-like object, got 'list'"
  | .date fault => fault.message
  | .tooDeep => "maximum recursion depth exceeded"

/-- Whether a caller expects the fault. -/
def isExpected : Fault → Bool
  | .noCharacter code => decide (code < machineBound)
  | .realTooLarge => false
  | .emptyNumeral => false
  | .unknownWord _ => false
  | .noText => false
  | .tooDeep => false
  | _ => true

end Fault

/-! ## Characters -/

/-- The characters that a stream may hold. -/
def isAllowed (c : Char) : Bool :=
  let code := c.toNat
  code == 9 || code == 10 || code == 13 || (0x20 ≤ code && code ≤ 0x7e) || code == 0x85 ||
    (0xa0 ≤ code && code ≤ 0xd7ff) || (0xe000 ≤ code && code ≤ 0xfffd) || 0x10000 ≤ code

/-- A break ends a line. -/
def isBreak (c : Char) : Bool :=
  c == '\n' || c == '\r' || c == '\u0085' || c == '\u2028' || c == '\u2029'

/-- What a break stands for in a scalar: itself for the two separators of Unicode, and
a line feed otherwise. -/
def breakText (c : Char) : Char :=
  if c = '\u2028' ∨ c = '\u2029' then c else '\n'

/-- A space or a tab. -/
def isGap (c : Char) : Bool :=
  c == ' ' || c == '\t'

/-- Whether a place is at the end of a line. -/
def endsLine : List Char → Bool
  | [] => true
  | c :: _ => isBreak c

/-- Whether a space or the end of a line is at a place. -/
def endsField : List Char → Bool
  | [] => true
  | c :: _ => c == ' ' || isBreak c

/-- Whether a space, a tab or the end of a line is at a place. -/
def endsWord : List Char → Bool
  | [] => true
  | c :: _ => isGap c || isBreak c

/-- The characters that open, close and separate flow collections. -/
def isFlowIndicator (c : Char) : Bool :=
  c == ',' || c == '[' || c == ']' || c == '\x7b' || c == '\x7d'

/-- The characters of names: ASCII letters and digits, the hyphen and the underscore. -/
def isNameCharacter (c : Char) : Bool :=
  c.isAlphanum || c == '-' || c == '_'

/-- Whether a line that begins at a place separates documents: three hyphens or three
points by themselves. -/
def atSeparator (rest : List Char) : Bool :=
  (['-', '-', '-'].isPrefixOf rest || ['.', '.', '.'].isPrefixOf rest) && endsWord (rest.drop 3)

/-! ## Places -/

/-- A place in a stream. -/
structure Cursor where
  rest : List Char
  size : Nat
  index : Nat
  line : Nat
  column : Nat
  deriving DecidableEq, Repr

namespace Cursor

/-- The beginning of a stream. -/
def start (characters : List Char) : Cursor :=
  ⟨characters, characters.length, 0, 0, 0⟩

/-- The place behind a number of characters. -/
def advance (cursor : Cursor) : Nat → Cursor
  | 0 => cursor
  | count + 1 =>
      match cursor.rest with
      | [] => cursor
      | c :: rest =>
          let next : Cursor :=
            if isBreak c then ⟨rest, cursor.size, cursor.index + 1, cursor.line + 1, 0⟩
            else if c = '\ufeff' then
              ⟨rest, cursor.size, cursor.index + 1, cursor.line, cursor.column⟩
            else ⟨rest, cursor.size, cursor.index + 1, cursor.line, cursor.column + 1⟩
          next.advance count

/-- The place at which only `rest`, the end of what follows the cursor, is left. -/
def moveTo (cursor : Cursor) (rest : List Char) : Cursor :=
  cursor.advance (cursor.size - cursor.index - rest.length)

end Cursor

/-! ## Streams -/

/-- The characters of a stream up to the first fault, and that fault. -/
structure Source where
  characters : List Char
  fault : Option Fault
  deriving DecidableEq, Repr

namespace Source

/-- How many characters are read at once. -/
def pieceSize : Nat := 4096

/-- The characters of some pieces up to the first that holds a character which is not
allowed; the fault behind all of them is given. -/
def ofPieces (fault : Option Fault) : List (List Char) → Source
  | [] => ⟨[], fault⟩
  | piece :: rest =>
      if piece.all isAllowed then
        let later := ofPieces fault rest
        ⟨piece ++ later.characters, later.fault⟩
      else ⟨[], some .malformed⟩

/-- The characters of the stream in some bytes.  The first two pieces are read before
anything is done with the first. -/
def ofBytes (bytes : List UInt8) : Source :=
  let (pieces, fault) := Text.Feed.piecesOf pieceSize bytes
  let behind := fault.map Fault.encoding
  match pieces with
  | first :: second :: later => ofPieces behind ((first ++ second) :: later)
  | pieces => ofPieces behind (if behind.isSome then [] else pieces)

end Source

end PathPolicy.Yaml
