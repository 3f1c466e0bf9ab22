import PathPolicy.Number.Numeral

/-!
# Binary floating-point numbers of 64 bits

A finite number is a mantissa of at most 53 bits times a power of two; the
mantissa has all 53 bits unless the exponent is the least one.  A ratio of two
natural numbers becomes the nearest such number, a tie the one with an even
mantissa, and a magnitude beyond the largest finite number becomes infinite.
-/

namespace PathPolicy.Number

/-- A number of the format: its sign and magnitude, an infinity, or no number. -/
inductive Binary64
  | finite (negative : Bool) (mantissa : Nat) (exponent : Int)
  | infinite (negative : Bool)
  | nan
  deriving DecidableEq, Repr

/-- The quotient rounded to the nearest natural number, a tie to the even one. -/
def roundHalfEven (numerator denominator : Nat) : Nat :=
  let quotient := numerator / denominator
  let twice := 2 * (numerator % denominator)
  if twice < denominator then quotient
  else if denominator < twice then quotient + 1
  else quotient + quotient % 2

namespace Binary64

/-- The exponent of the least numbers of the format. -/
def leastExponent : Int := -1074

/-- The exponent of the greatest numbers of the format. -/
def greatestExponent : Int := 971

/-- The zero of a sign. -/
def zero (negative : Bool) : Binary64 :=
  .finite negative 0 leastExponent

/-- The quotient divided by a power of two, rounded to the nearest natural number. -/
def scaledMantissa (numerator denominator : Nat) (exponent : Int) : Nat :=
  roundHalfEven (numerator * Nat.pow 2 (-exponent).toNat)
    (denominator * Nat.pow 2 exponent.toNat)

/-- The floor of the binary logarithm of a positive ratio. -/
def binaryOrder (numerator denominator : Nat) : Int :=
  let guess : Int := (Nat.log2 numerator : Int) - Nat.log2 denominator
  if denominator * Nat.pow 2 guess.toNat ≤ numerator * Nat.pow 2 (-guess).toNat then guess
  else guess - 1

/-- The number of the format nearest to a ratio. -/
def ofRatio (negative : Bool) (numerator denominator : Nat) : Binary64 :=
  if numerator = 0 ∨ denominator = 0 then zero negative
  else
    let exponent := max (binaryOrder numerator denominator - 52) leastExponent
    let mantissa := scaledMantissa numerator denominator exponent
    let carried := mantissa = Nat.pow 2 53
    let mantissa := if carried then Nat.pow 2 52 else mantissa
    let exponent := if carried then exponent + 1 else exponent
    if greatestExponent < exponent then .infinite negative else .finite negative mantissa exponent

/-- The number of the format nearest to `digits` times a power of ten.  Powers
far outside the format are settled without computing them. -/
def ofDecimal (negative : Bool) (digits : Nat) (power : Int) : Binary64 :=
  let order := power + (Nat.log2 digits + 1 : Int)
  if digits = 0 then zero negative
  else if 400 < power then .infinite negative
  else if order < -400 ∧ power < -400 - (Nat.log2 digits : Int) then zero negative
  else ofRatio negative (digits * Nat.pow 10 power.toNat) (Nat.pow 10 (-power).toNat)

/-- The magnitude as a ratio, unless it is infinite or no number. -/
def ratio? : Binary64 → Option (Nat × Nat)
  | .finite _ mantissa exponent =>
      some (mantissa * Nat.pow 2 exponent.toNat, Nat.pow 2 (-exponent).toNat)
  | _ => none

/-- A number is zero whatever its sign. -/
def isZero : Binary64 → Bool
  | .finite _ mantissa _ => mantissa == 0
  | _ => false

/-- The number of the format nearest to a signed ratio. -/
def ofSignedRatio (numerator : Int) (denominator : Nat) : Binary64 :=
  ofRatio (numerator < 0) numerator.natAbs denominator

/-- Whether a number has a minus sign. -/
def isNegative : Binary64 → Bool
  | .finite negative _ _ => negative
  | .infinite negative => negative
  | .nan => false

/-- The numerator of a number with its sign, and its denominator, unless it is infinite
or no number. -/
def signedRatio? (number : Binary64) : Option (Int × Nat) :=
  number.ratio?.map fun (numerator, denominator) =>
    (if number.isNegative then -(numerator : Int) else numerator, denominator)

/-- The sum of two numbers, rounded once.  A sum of zero is negative only if both are. -/
def add (left right : Binary64) : Binary64 :=
  match left.signedRatio?, right.signedRatio? with
  | some (a, b), some (c, d) =>
      let numerator := a * d + c * b
      if numerator = 0 then zero (left.isNegative && right.isNegative)
      else ofSignedRatio numerator (b * d)
  | none, some _ => left
  | some _, none => right
  | none, none => if left = right then left else .nan

/-- The product of two numbers, rounded once. -/
def mul (left right : Binary64) : Binary64 :=
  let negative := left.isNegative != right.isNegative
  match left.ratio?, right.ratio? with
  | some (a, b), some (c, d) => ofRatio negative (a * c) (b * d)
  | _, _ =>
      if left = .nan ∨ right = .nan ∨ left.isZero ∨ right.isZero then .nan
      else .infinite negative

/-- The number with the opposite sign. -/
def negate : Binary64 → Binary64
  | .finite negative mantissa exponent => .finite (!negative) mantissa exponent
  | .infinite negative => .infinite (!negative)
  | .nan => .nan

/-- The integer that a number equals, if it equals one. -/
def integer? : Binary64 → Option Int
  | .finite negative mantissa exponent =>
      let numerator := mantissa * Nat.pow 2 exponent.toNat
      let denominator := Nat.pow 2 (-exponent).toNat
      if numerator % denominator = 0 then
        let magnitude : Int := numerator / denominator
        some (if negative then -magnitude else magnitude)
      else none
  | _ => none

/-- Two numbers are equal when they denote the same real number or the same
infinity: zeros are equal, and what is no number equals nothing. -/
def equals : Binary64 → Binary64 → Bool
  | .finite n m e, .finite n' m' e' => (m == 0 && m' == 0) || (n == n' && m == m' && e == e')
  | .infinite n, .infinite n' => n == n'
  | _, _ => false

end Binary64

/-- A decimal numeral: its digits before and behind the point and its exponent. -/
structure DecimalNumeral where
  digits : Nat
  power : Int
  deriving DecidableEq, Repr

/-- The exponent part of a numeral, which may be missing. -/
def readExponent? : List Char → Option Int
  | [] => some 0
  | c :: rest =>
      if c = 'e' ∨ c = 'E' then
        let (negative, digits) := takeSign rest
        (readNatural? 10 digits).map fun size => if negative then -(size : Int) else size
      else none

/-- Reads an unsigned decimal numeral: digits with at most one point among them,
at least one digit, and perhaps an exponent. -/
def DecimalNumeral.ofText? (characters : List Char) : Option DecimalNumeral :=
  let whole := characters.takeWhile isDecimalDigit
  let behind := characters.dropWhile isDecimalDigit
  let (fraction, tail) :=
    match behind with
    | [] => ([], [])
    | c :: rest =>
        if c = '.' then (rest.takeWhile isDecimalDigit, rest.dropWhile isDecimalDigit)
        else ([], behind)
  (readNatural? 10 (whole ++ fraction)).bind fun digits =>
    (readExponent? tail).map fun power => ⟨digits, power - fraction.length⟩

/-- Reads a number: a signed decimal numeral, or a signed word for infinity or
for no number, in any case. -/
def Binary64.ofText? (characters : List Char) : Option Binary64 :=
  let (negative, magnitude) := takeSign characters
  let word := String.ofList (magnitude.map Char.toLower)
  if word = "inf" ∨ word = "infinity" then some (.infinite negative)
  else if word = "nan" then some .nan
  else
    (DecimalNumeral.ofText? magnitude).map fun numeral =>
      .ofDecimal negative numeral.digits numeral.power

end PathPolicy.Number
