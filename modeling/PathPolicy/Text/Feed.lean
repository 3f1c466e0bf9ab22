import PathPolicy.Text.Pieces
import PathPolicy.Text.Utf8

/-!
# Texts that are read in portions

The bytes of a text are fetched in portions, and its characters are handed over in
pieces of one size.  A character that the end of a portion cuts off is held back and
read again together with the next portion; the place of a fault is counted from the
first byte of what was read together.  Line ends are unified on the way.
-/

namespace PathPolicy.Text

/-- The state of a reader: the bytes that have not been fetched, those that are held
back, whether a carriage return is held back, the characters that have not been handed
over, and how many bytes and characters the last portion had. -/
structure Feed where
  bytes : List UInt8
  held : List UInt8
  heldReturn : Bool
  ready : List Char
  fetched : Nat
  decoded : Nat
  deriving DecidableEq, Repr

namespace Feed

/-- A portion has at least so many bytes, unless the text ends. -/
def leastPortion : Nat := 8192

/-- The reader in front of a text. -/
def start (bytes : List UInt8) : Feed :=
  ⟨bytes, [], false, [], 0, 0⟩

/-- How many bytes are fetched for some missing characters: as many as these will have if
characters are as long as they were before. -/
def portionSize (feed : Feed) (missing : Nat) : Nat :=
  max leastPortion <|
    if feed.decoded < feed.fetched ∧ feed.decoded ≠ 0 then
      missing * feed.fetched / feed.decoded
    else missing

/-- Whether bytes are the first two of a surrogate. -/
def beginSurrogate (bytes : List UInt8) : Bool :=
  match bytes with
  | [first, second] => first == 0xed && 0xa0 ≤ second && second ≤ 0xbf
  | _ => false

/-- The characters of bytes, and the bytes at their end that are held back because more
will follow: a character that is cut off, or the first two bytes of a surrogate. -/
def decodeOpen (bytes : List UInt8) : Except Utf8.Fault (List Char × List UInt8) :=
  match Utf8.decode bytes with
  | .ok characters => .ok (characters, [])
  | .error fault =>
      let behind := bytes.drop fault.position
      if fault.reason = .unexpectedEnd ∨ beginSurrogate behind then
        (Utf8.decode (bytes.take fault.position)).map fun characters => (characters, behind)
      else .error fault

/-- Takes away a carriage return at the end. -/
def holdReturn (characters : List Char) : List Char × Bool :=
  if characters.getLast? = some '\r' then (characters.dropLast, true) else (characters, false)

/-- Fetches a portion; an empty one is the end of the text. -/
def fetch (feed : Feed) (missing : Nat) : Except Utf8.Fault Feed := do
  let size := feed.portionSize missing
  let portion := feed.bytes.take size
  let together := feed.held ++ portion
  let isEnd := portion.isEmpty
  let (characters, held) ←
    if isEnd then (Utf8.decode together).map fun characters => (characters, [])
    else decodeOpen together
  let joined :=
    if feed.heldReturn && (isEnd || !characters.isEmpty) then '\r' :: characters else characters
  let (complete, endsInReturn) := if isEnd then (joined, false) else holdReturn joined
  let unified := unifyNewlines complete
  pure {
    bytes := feed.bytes.drop size
    held
    heldReturn := endsInReturn || (feed.heldReturn && characters.isEmpty && !isEnd)
    ready := feed.ready ++ unified
    fetched := portion.length
    decoded := unified.length }

/-- Hands over a piece of a size, or what is left at the end of the text, after at most so
many portions. -/
def piece (size : Nat) : Nat → Feed → Except Utf8.Fault (List Char × Feed)
  | 0, feed => .ok (feed.ready, { feed with ready := [] })
  | portions + 1, feed => do
      let missing := size - feed.ready.length
      if missing = 0 then pure (feed.ready.take size, { feed with ready := feed.ready.drop size })
      else
        let next ← feed.fetch missing
        if next.fetched = 0 ∧ next.decoded = 0 then
          pure (next.ready, { next with ready := [] })
        else piece size portions next

/-- At most so many pieces of a size, and the fault behind them. -/
def pieces (size : Nat) : Nat → Feed → List (List Char) × Option Utf8.Fault
  | 0, _ => ([], none)
  | count + 1, feed =>
      match feed.piece size (feed.bytes.length + 2) with
      | .error fault => ([], some fault)
      | .ok (characters, next) =>
          if characters.isEmpty then ([], none)
          else
            let (later, fault) := pieces size count next
            (characters :: later, fault)

/-- The pieces of a size in the bytes of a text, and the fault behind them. -/
def piecesOf (size : Nat) (bytes : List UInt8) : List (List Char) × Option Utf8.Fault :=
  (start bytes).pieces size (bytes.length + 1)

end Feed

end PathPolicy.Text
