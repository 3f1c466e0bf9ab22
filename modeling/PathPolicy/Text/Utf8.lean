import PathPolicy.Number.Numeral

/-!
# Reading bytes as UTF-8

A text is read byte by byte.  A leading byte says how many bytes follow and
which range the next of them lies in; that range excludes overlong forms,
surrogates and code points beyond the last plane.  The first byte that does not
fit is a fault, which names the run of bytes that were read as one character.
-/

namespace PathPolicy.Text.Utf8

/-- Why bytes are not UTF-8. -/
inductive Reason
  | invalidStart
  | invalidContinuation
  | unexpectedEnd
  deriving DecidableEq, Repr

/-- The words for a reason. -/
def Reason.message : Reason → String
  | .invalidStart => "invalid start byte"
  | .invalidContinuation => "invalid continuation byte"
  | .unexpectedEnd => "unexpected end of data"

/-- The bad run of bytes, where it starts and what is wrong with it. -/
structure Fault where
  position : Nat
  run : List UInt8
  reason : Reason
  deriving DecidableEq, Repr

/-- The fault in words: one byte is shown, several are located. -/
def Fault.message (fault : Fault) : String :=
  let place :=
    match fault.run with
    | [byte] =>
        "byte 0x" ++ String.ofList (LetterCase.lower.hexDigits 2 byte.toNat) ++ " in position " ++
          toString fault.position
    | run =>
        "bytes in position " ++ toString fault.position ++ "-" ++
          toString (fault.position + run.length - 1)
  "'utf-8' codec can't decode " ++ place ++ ": " ++ fault.reason.message

/-- A character whose first bytes have been read: where it starts, its bytes so
far, the bits they carry, how many bytes are missing and the range of the next. -/
structure Pending where
  start : Nat
  run : List UInt8
  bits : Nat
  missing : Nat
  low : UInt8
  high : UInt8
  deriving DecidableEq, Repr

/-- What a leading byte announces: a whole character, the rest of one, or nothing. -/
inductive Lead
  | whole (c : Char)
  | starts (pending : Pending)
  | invalid
  deriving DecidableEq, Repr

/-- Reads a leading byte at a position. -/
def Lead.ofByte (position : Nat) (byte : UInt8) : Lead :=
  let starts := fun (bits : UInt8) (missing : Nat) (low high : UInt8) =>
    Lead.starts ⟨position, [byte], (byte - bits).toNat, missing, low, high⟩
  if byte < 0x80 then .whole (Char.ofNat byte.toNat)
  else if byte < 0xc2 then .invalid
  else if byte < 0xe0 then starts 0xc0 1 0x80 0xbf
  else if byte = 0xe0 then starts 0xe0 2 0xa0 0xbf
  else if byte = 0xed then starts 0xe0 2 0x80 0x9f
  else if byte < 0xf0 then starts 0xe0 2 0x80 0xbf
  else if byte = 0xf0 then starts 0xf0 3 0x90 0xbf
  else if byte < 0xf4 then starts 0xf0 3 0x80 0xbf
  else if byte = 0xf4 then starts 0xf0 3 0x80 0x8f
  else .invalid

/-- The bits of a character after one more byte. -/
def Pending.bitsWith (pending : Pending) (byte : UInt8) : Nat :=
  pending.bits * 64 + (byte - 0x80).toNat

/-- The characters of the bytes from a position on, behind a pending character. -/
def decodeFrom (position : Nat) (pending? : Option Pending) :
    List UInt8 → Except Fault (List Char)
  | [] =>
      match pending? with
      | none => .ok []
      | some pending => .error ⟨pending.start, pending.run, .unexpectedEnd⟩
  | byte :: rest =>
      match pending? with
      | none =>
          match Lead.ofByte position byte with
          | .whole c => (decodeFrom (position + 1) none rest).map (c :: ·)
          | .starts pending => decodeFrom (position + 1) (some pending) rest
          | .invalid => .error ⟨position, [byte], .invalidStart⟩
      | some pending =>
          if byte < pending.low ∨ pending.high < byte then
            .error ⟨pending.start, pending.run, .invalidContinuation⟩
          else if pending.missing ≤ 1 then
            (decodeFrom (position + 1) none rest).map (Char.ofNat (pending.bitsWith byte) :: ·)
          else
            decodeFrom (position + 1)
              (some ⟨pending.start, pending.run ++ [byte], pending.bitsWith byte,
                pending.missing - 1, 0x80, 0xbf⟩)
              rest

/-- The characters that the bytes encode. -/
def decode (bytes : List UInt8) : Except Fault (List Char) :=
  decodeFrom 0 none bytes

/-- The bytes that encode a text. -/
def encode (text : String) : List UInt8 :=
  text.toList.flatMap String.utf8EncodeChar

end PathPolicy.Text.Utf8
