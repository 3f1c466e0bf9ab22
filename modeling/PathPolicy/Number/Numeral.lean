/-!
# Digits and numerals

Escapes write a code point with a fixed number of hexadecimal digits, in lower case inside
quoted words and in upper case inside snapshots.  The decimal digits of a script stand one
behind the other, from zero to nine.  A numeral is a list of digits in a base; reading one
multiplies by the base at every digit, and a character that is no digit of the base spoils
the whole numeral.
-/

namespace PathPolicy

/-! ## Hexadecimal digits -/

namespace Text

/-- Which letters stand for the digits from ten to fifteen. -/
inductive LetterCase
  | lower
  | upper
  deriving DecidableEq, Repr

/-- The character of one digit below sixteen. -/
def LetterCase.hexDigit (letterCase : LetterCase) (digit : Nat) : Char :=
  if digit < 10 then Char.ofNat ('0'.toNat + digit)
  else
    match letterCase with
    | .lower => Char.ofNat ('a'.toNat + (digit - 10))
    | .upper => Char.ofNat ('A'.toNat + (digit - 10))

/-- The last `width` hexadecimal digits of a number, leading zeros included. -/
def LetterCase.hexDigits (letterCase : LetterCase) : (width : Nat) → (number : Nat) → List Char
  | 0, _ => []
  | width + 1, number =>
      letterCase.hexDigit (number / Nat.pow 16 width % 16) :: letterCase.hexDigits width number

/-- The digit that a hexadecimal character stands for, in either case. -/
def hexValue? (c : Char) : Option Nat :=
  if '0' ≤ c ∧ c ≤ '9' then some (c.toNat - '0'.toNat)
  else if 'a' ≤ c ∧ c ≤ 'f' then some (c.toNat - 'a'.toNat + 10)
  else if 'A' ≤ c ∧ c ≤ 'F' then some (c.toNat - 'A'.toNat + 10)
  else none

end Text

/-! ## Decimal digits of all scripts -/

namespace Text

/-- The code points of the zeros of all scripts. -/
def zeroCodes : List Nat := [
    0x30, 0x660, 0x6f0, 0x7c0, 0x966, 0x9e6, 0xa66, 0xae6, 0xb66, 0xbe6, 0xc66, 0xce6, 0xd66, 0xde6,
    0xe50, 0xed0, 0xf20, 0x1040, 0x1090, 0x17e0, 0x1810, 0x1946, 0x19d0, 0x1a80, 0x1a90, 0x1b50,
    0x1bb0, 0x1c40, 0x1c50, 0xa620, 0xa8d0, 0xa900, 0xa9d0, 0xa9f0, 0xaa50, 0xabf0, 0xff10, 0x104a0,
    0x10d30, 0x11066, 0x110f0, 0x11136, 0x111d0, 0x112f0, 0x11450, 0x114d0, 0x11650, 0x116c0,
    0x11730, 0x118e0, 0x11950, 0x11c50, 0x11d50, 0x11da0, 0x16a60, 0x16ac0, 0x16b50, 0x1d7ce,
    0x1d7d8, 0x1d7e2, 0x1d7ec, 0x1d7f6, 0x1e140, 0x1e2f0, 0x1e950, 0x1fbf0]

/-- The number that a digit of any script stands for. -/
def decimalDigit? (c : Char) : Option Nat :=
  (zeroCodes.find? fun code => code ≤ c.toNat && c.toNat < code + 10).map (c.toNat - ·)

end Text

/-! ## Numerals -/

namespace Number

/-- The value of a digit in a base of at most sixteen. -/
def digit? (base : Nat) (c : Char) : Option Nat :=
  (Text.hexValue? c).filter (· < base)

/-- A decimal digit of ASCII. -/
def isDecimalDigit (c : Char) : Bool :=
  '0' ≤ c && c ≤ '9'

/-- The number that the digits denote behind a number already read. -/
def readDigitsFrom (base : Nat) (soFar : Nat) : List Char → Option Nat
  | [] => some soFar
  | c :: rest => (digit? base c).bind fun digit => readDigitsFrom base (soFar * base + digit) rest

/-- The number that the digits denote; a numeral has at least one digit. -/
def readNatural? (base : Nat) (numeral : List Char) : Option Nat :=
  if numeral.isEmpty then none else readDigitsFrom base 0 numeral

/-- Removes a sign in front; true means that it was a minus. -/
def takeSign : List Char → Bool × List Char
  | [] => (false, [])
  | c :: rest => if c = '-' then (true, rest) else if c = '+' then (false, rest) else (false, c :: rest)

end Number

end PathPolicy
