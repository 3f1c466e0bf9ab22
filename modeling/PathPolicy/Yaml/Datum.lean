import PathPolicy.Number.Integer
import PathPolicy.Text.LowerCase
import PathPolicy.Text.Pieces
import PathPolicy.Yaml.Source
import PathPolicy.Yaml.Tag

/-!
# Data of scalars

The tag of a scalar says how its characters are read.  A tag that is written need not
fit the characters, so every conversion can fail; numbers are read more freely than
they are recognised without a tag.  In bytes four digits carry three of them; characters
that are no digits are passed over, and equals signs that complete a group of four end the
text.
-/

namespace PathPolicy

/-! ## Base 64 -/

namespace Text.Base64

/-- The value of a digit. -/
def digit? (c : Char) : Option Nat :=
  if c.isUpper then some (c.toNat - 'A'.toNat)
  else if c.isLower then some (c.toNat - 'a'.toNat + 26)
  else if c.isDigit then some (c.toNat - '0'.toNat + 52)
  else if c = '+' then some 62
  else if c = '/' then some 63
  else none

/-- The byte that a digit completes: of the digits of a group it is the one in some place,
and the digit in front of it is given. -/
def byteOf (place before digit : Nat) : UInt8 :=
  UInt8.ofNat (before * Nat.pow 4 place + digit / Nat.pow 4 (3 - place))

/-- Reads digits behind some digits of a group, of which the last is given, and behind some
equals signs. -/
def decodeFrom (place before padding : Nat) : List Char → Option (List UInt8)
  | [] => if place = 0 then some [] else none
  | c :: rest =>
      if c = '=' then
        if place < 2 then decodeFrom place before padding rest
        else if 4 ≤ place + padding + 1 then some []
        else decodeFrom place before (padding + 1) rest
      else
        match digit? c with
        | none => decodeFrom place before padding rest
        | some digit =>
            let later := decodeFrom ((place + 1) % 4) digit 0 rest
            if place = 0 then later else later.map (byteOf place before digit :: ·)

/-- The bytes that a text stands for. -/
def decode (characters : List Char) : Option (List UInt8) :=
  decodeFrom 0 0 0 characters

end Text.Base64

namespace Yaml

/-- The characters without underscores. -/
def withoutBars (characters : List Char) : List Char :=
  characters.filter (· != '_')

/-- The sign and the rest of a numeral, which has at least one character. -/
def signOf (numeral : List Char) : Except Fault (Bool × List Char) :=
  if numeral.isEmpty then .error .emptyNumeral else .ok (Number.takeSign numeral)

/-! ## Integers -/

/-- Reads the digits of an integer in a base. -/
def readDigits (base : Nat) (numeral : List Char) : Except Fault Int :=
  (Number.readInteger base numeral).mapError fun
    | .invalid => .noInteger base (String.ofList numeral)
    | .tooLong count => .tooManyDigits count

/-- A number in base sixty from its parts, the greatest in front. -/
def readSexagesimal (parts : List (List Char)) : Except Fault Int :=
  parts.foldlM (fun number part => (readDigits 10 part).map (number * 60 + ·)) 0

/-- Reads an integer behind its sign: a zero in front means base eight, and a letter behind
it base two or sixteen. -/
def readMagnitude (numeral : List Char) : Except Fault Int :=
  match numeral with
  | [] => .error .emptyNumeral
  | ['0'] => .ok 0
  | first :: rest =>
      if first = '0' then
        if rest.head? = some 'b' then readDigits 2 (rest.drop 1)
        else if rest.head? = some 'x' then readDigits 16 (rest.drop 1)
        else readDigits 8 numeral
      else if numeral.contains ':' then readSexagesimal (Text.splitAt ':' numeral)
      else readDigits 10 numeral

/-- Reads an integer. -/
def readInteger (content : List Char) : Except Fault Int := do
  let (negative, numeral) ← signOf (withoutBars content)
  let size ← readMagnitude numeral
  pure (if negative then -size else size)

/-! ## Real numbers -/

/-- The sign and the rest of a real number, in lower case. -/
def realNumeral (content : List Char) : Except Fault (Bool × List Char) :=
  signOf (Text.lowerCase (withoutBars content))

/-- The word for what is no number. -/
def notANumber : List Char :=
  ".nan".toList

/-- Reads a real number without colons. -/
def readUnit (numeral : List Char) : Except Fault Number.Binary64 :=
  match Number.Binary64.ofPaddedText? numeral with
  | some number => .ok number
  | none => .error (.noReal (String.ofList numeral))

/-- Adds up the parts of a number in base sixty, the least in front; every step is
rounded, and no power of sixty may be too large for a real number. -/
def sumSixties (total : Number.Binary64) (power : Nat) :
    List Number.Binary64 → Except Fault Number.Binary64
  | [] => .ok total
  | part :: rest =>
      match Number.Binary64.ofRatio false power 1 with
      | .infinite _ => .error .realTooLarge
      | weight => sumSixties (total.add (part.mul weight)) (power * 60) rest

/-- Reads a real number. -/
def readReal (content : List Char) : Except Fault Number.Binary64 := do
  let (negative, numeral) ← realNumeral content
  let size ←
    if numeral = ".inf".toList then pure (.infinite false)
    else if numeral = notANumber then pure .nan
    else if numeral.contains ':' then do
      let parts ← (Text.splitAt ':' numeral).mapM readUnit
      sumSixties (.zero false) 1 parts.reverse
    else readUnit numeral
  pure (if negative then size.negate else size)

/-! ## Words, times and bytes -/

/-- Reads a truth value, in any case. -/
def readBoolean (content : List Char) : Except Fault Bool :=
  let word := String.ofList (Text.lowerCase content)
  if ["yes", "true", "on"].contains word then .ok true
  else if ["no", "false", "off"].contains word then .ok false
  else .error (.unknownWord word)

/-- Reads a date, or a date with a time of day. -/
def readTimestamp (content : List Char) : Except Fault Scalar :=
  match Timestamp.ofText? (Timestamp.withoutFinalBreak content) with
  | none => .error .noDate
  | some timestamp => timestamp.datum.mapError .date

/-- Reads bytes, which are written in ASCII. -/
def readBytes (content : List Char) : Except Fault (List UInt8) :=
  if content.all (·.toNat < 0x80) then
    match Text.Base64.decode content with
    | some bytes => .ok bytes
    | none => .error .malformed
  else .error .malformed

/-- The datum of the characters of a scalar under a tag. -/
def datumOf (tag : Tag) (content : List Char) : Except Fault Scalar :=
  match tag with
  | .text => .ok (.text (String.ofList content))
  | .null => .ok .null
  | .boolean => (readBoolean content).map .boolean
  | .integer => (readInteger content).map .integer
  | .real => (readReal content).map .real
  | .timestamp => readTimestamp content
  | .binary => (readBytes content).map .bytes
  | _ => .error .malformed

/-- Whether a real number is written with the word for what is no number. -/
def isNotANumber (content : List Char) : Bool :=
  match realNumeral content with
  | .ok (_, numeral) => numeral == notANumber
  | .error _ => false

end Yaml

end PathPolicy
