import PathPolicy.Number.Binary64

/-!
# The shortest decimal text of a number

The reals that round to a number form an interval around it.  The shortest text
has the fewest digits with which a decimal lies in that interval, and among
those decimals it shows the nearest.  A `DecimalStyle` decides when the digits
are written out in positions and how an exponent looks.
-/

namespace PathPolicy.Number

/-- A decimal: a natural number of units of a power of ten. -/
structure Decimal where
  units : Nat
  power : Int
  deriving DecidableEq, Repr

/-- The reals that round to `mantissa` times two to the `exponent`, measured in
quarters of that power: the middle and both ends. -/
structure RoundingInterval where
  low : Nat
  middle : Nat
  high : Nat
  closed : Bool
  deriving DecidableEq, Repr

/-- The interval reaches half way to the neighbours; below a power of two the
neighbour is half as far.  The ends belong to it when the mantissa is even. -/
def RoundingInterval.around (mantissa : Nat) (exponent : Int) : RoundingInterval :=
  let below := if mantissa = Nat.pow 2 52 ∧ Binary64.leastExponent < exponent then 1 else 2
  ⟨4 * mantissa - below, 4 * mantissa, 4 * mantissa + 2, mantissa % 2 == 0⟩

/-- The floor of the decimal logarithm of a positive ratio. -/
def decimalOrder (numerator denominator : Nat) : Int :=
  if denominator ≤ numerator then
    ((Nat.toDigits 10 (numerator / denominator)).length : Int) - 1
  else
    let guess := (Nat.toDigits 10 (denominator / numerator)).length - 1
    if denominator ≤ numerator * Nat.pow 10 guess then -(guess : Int) else -((guess : Int) + 1)

/-- The decimal with units of `power` that lies in the interval and nearest to its
middle, if there is one; quarters are worth two to the `exponent` minus two. -/
def RoundingInterval.onGrid? (interval : RoundingInterval) (exponent power : Int) :
    Option Decimal :=
  let quarter := exponent - 2
  let numerator := Nat.pow 2 quarter.toNat * Nat.pow 10 (-power).toNat
  let denominator := Nat.pow 2 (-quarter).toNat * Nat.pow 10 power.toNat
  let inside := fun units : Nat =>
    let place := units * denominator
    if interval.closed then
      interval.low * numerator ≤ place && place ≤ interval.high * numerator
    else interval.low * numerator < place && place < interval.high * numerator
  let floor := interval.middle * numerator / denominator
  let twice := 2 * (interval.middle * numerator)
  let half := (2 * floor + 1) * denominator
  let upNearer := half < twice || (half == twice && floor % 2 == 1)
  match inside floor, inside (floor + 1) with
  | true, true => some ⟨if upNearer then floor + 1 else floor, power⟩
  | true, false => some ⟨floor, power⟩
  | false, true => some ⟨floor + 1, power⟩
  | false, false => none

/-- Tries grids of one more digit each until one has a decimal in the interval. -/
def RoundingInterval.search (interval : RoundingInterval) (exponent order : Int) :
    (tries : Nat) → (digits : Nat) → Decimal
  | 0, _ => ⟨0, 0⟩
  | tries + 1, digits =>
      match interval.onGrid? exponent (order - digits + 1) with
      | some decimal => decimal
      | none => interval.search exponent order tries (digits + 1)

/-- The nearest of the shortest decimals that round to a positive number;
seventeen digits always suffice. -/
def shortestDecimal (mantissa : Nat) (exponent : Int) : Decimal :=
  let order := decimalOrder (mantissa * Nat.pow 2 exponent.toNat) (Nat.pow 2 (-exponent).toNat)
  (RoundingInterval.around mantissa exponent).search exponent order 17 1

/-- How digits become a text: between which powers of ten they are written out in
positions, and with how many digits at least an exponent is written otherwise. -/
structure DecimalStyle where
  leastPositional : Int
  greatestPositional : Int
  exponentWidth : Nat
  deriving DecidableEq, Repr

/-- Removes the zeros at the end of a list of digits. -/
def dropFinalZeros (digits : List Char) : List Char :=
  (digits.reverse.dropWhile (· == '0')).reverse

/-- Writes digits whose first one stands for that many powers of ten. -/
def DecimalStyle.write (style : DecimalStyle) (digits : List Char) (order : Int) : List Char :=
  if style.leastPositional ≤ order ∧ order ≤ style.greatestPositional then
    if order < 0 then
      '0' :: '.' :: (List.replicate (-order - 1).toNat '0' ++ digits)
    else
      let whole := digits.take (order + 1).toNat
      let fraction := digits.drop (order + 1).toNat
      let padding := List.replicate ((order + 1).toNat - whole.length) '0'
      whole ++ padding ++ '.' :: (if fraction.isEmpty then ['0'] else fraction)
  else
    let mantissa :=
      match digits with
      | [] => []
      | [digit] => [digit]
      | digit :: rest => digit :: '.' :: rest
    let size := Nat.toDigits 10 order.natAbs
    let padding := List.replicate (style.exponentWidth - size.length) '0'
    mantissa ++ 'e' :: (if order < 0 then '-' else '+') :: (padding ++ size)

/-- The text of a number in a style; a whole number keeps one zero behind the point. -/
def Binary64.text (style : DecimalStyle) : Binary64 → String
  | .nan => "nan"
  | .infinite negative => if negative then "-inf" else "inf"
  | .finite negative mantissa exponent =>
      let magnitude :=
        if mantissa = 0 then ['0', '.', '0']
        else
          let decimal := shortestDecimal mantissa exponent
          let digits := Nat.toDigits 10 decimal.units
          style.write (dropFinalZeros digits) (decimal.power + digits.length - 1)
      String.ofList (if negative then '-' :: magnitude else magnitude)

end PathPolicy.Number
