import PathPolicy.Number.Binary64
import PathPolicy.Number.Numeral
import PathPolicy.Text.Pieces

/-!
# Numbers as texts

An integer may be written in the digits of any script and between blanks.  In base
ten neither a text that is read nor one that is written may have too many digits;
the other bases know no such limit.
-/

namespace PathPolicy.Number

/-- An integer in base ten has at most so many digits. -/
def longestDecimal : Nat := 4300

/-- The least magnitude that has too many digits in base ten. -/
def decimalBound : Nat := Nat.pow 10 longestDecimal

/-- The digits of an integer in base ten, unless there are too many of them. -/
def decimalText? (number : Int) : Option String :=
  if number.natAbs < decimalBound then some (toString number) else none

/-- The report that an integer has too many digits, with their number if it is known. -/
def tooManyDigits (count : Option Nat) : String :=
  let value :=
    match count with
    | none => ""
    | some count => ": value has " ++ toString count ++ " digits"
  "Exceeds the limit (" ++ toString longestDecimal ++ " digits) for integer string conversion" ++
    value ++ "; use sys.set_int_max_str_digits() to increase the limit"

/-- The blanks of ASCII that may stand around a number. -/
def isPadding (c : Char) : Bool :=
  c == ' ' || (9 ≤ c.toNat && c.toNat ≤ 13)

/-- The character that stands for another one in a number: a space for each blank beyond
ASCII, and a digit of ASCII for each digit beyond. -/
def plainCharacter (c : Char) : Char :=
  if c.toNat < 0x80 then c
  else if Text.isBlank c then ' '
  else
    match Text.decimalDigit? c with
    | some digit => Char.ofNat ('0'.toNat + digit)
    | none => c

/-- The characters of a number without what may stand around it. -/
def unpadded (characters : List Char) : List Char :=
  let body := (characters.map plainCharacter).dropWhile isPadding
  (body.reverse.dropWhile isPadding).reverse

/-- Why a text is no integer: it is none in its base, or it has too many digits. -/
inductive IntegerFault
  | invalid
  | tooLong (digits : Nat)
  deriving DecidableEq, Repr

/-- The letter that may mark the digits of a base behind a zero. -/
def baseMark? (base : Nat) : Option Char :=
  if base = 2 then some 'b' else if base = 8 then some 'o' else if base = 16 then some 'x' else none

/-- The digits without the mark of their base. -/
def withoutMark (base : Nat) (numeral : List Char) : List Char :=
  match numeral with
  | first :: second :: rest =>
      if first = '0' ∧ baseMark? base = some second.toLower then rest else numeral
  | _ => numeral

/-- Reads an integer.  Too many digits are noticed before what follows them. -/
def readInteger (base : Nat) (characters : List Char) : Except IntegerFault Int :=
  let (negative, numeral) := takeSign (unpadded characters)
  let marked := withoutMark base numeral
  let isDigit := fun c => (digit? base c).isSome
  let digits := marked.takeWhile isDigit
  if base = 10 ∧ longestDecimal < digits.length then .error (.tooLong digits.length)
  else
    match readNatural? base digits, marked.dropWhile isDigit with
    | some size, [] => .ok (if negative then -(size : Int) else size)
    | _, _ => .error .invalid

/-- Reads a number that blanks may surround. -/
def Binary64.ofPaddedText? (characters : List Char) : Option Binary64 :=
  Binary64.ofText? (unpadded characters)

end PathPolicy.Number
