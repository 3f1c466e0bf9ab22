import PathPolicy.Number.Numeral
import PathPolicy.Value
import PathPolicy.Yaml.Source

/-!
# Dates and times in a stream

A date is written with hyphens.  Behind it a time of day may follow: a letter or
blanks, hours, minutes and seconds between colons, perhaps a fraction, and perhaps a
zone.  What is written so need not be in the calendar.
-/

namespace PathPolicy.Yaml

/-- A time of day as it is written: its numbers, the digits of its fraction and by how
many minutes it is ahead of universal time if it says so. -/
structure Clock where
  hour : Nat
  minute : Nat
  second : Nat
  fraction : List Char
  zone : Option Int
  deriving DecidableEq, Repr

/-- A date as it is written, perhaps with a time of day; a padded date has two digits for
the month and for the day. -/
structure Timestamp where
  year : Nat
  month : Nat
  day : Nat
  padded : Bool
  clock : Option Clock
  deriving DecidableEq, Repr

/-- Digits in front of other characters, at least and at most so many. -/
def spanDigits? (least most : Nat) (characters : List Char) :
    Option (List Char × List Char) :=
  let digits := characters.takeWhile Char.isDigit
  if least ≤ digits.length ∧ digits.length ≤ most then
    some (digits, characters.dropWhile Char.isDigit)
  else none

/-- A number with at least and at most so many digits, and what follows it. -/
def spanNumber? (least most : Nat) (characters : List Char) : Option (Nat × List Char) := do
  let (digits, rest) ← spanDigits? least most characters
  pure (← Number.readNatural? 10 digits, rest)

/-- What follows a character. -/
def behind? (mark : Char) : List Char → Option (List Char)
  | [] => none
  | c :: rest => if c = mark then some rest else none

/-- The zone at the end of a time, in minutes: a letter for universal time, or hours and
perhaps minutes behind a sign. -/
def readZone? (characters : List Char) : Option Int :=
  match characters with
  | [] => none
  | sign :: rest =>
      if sign = 'Z' then if rest.isEmpty then some 0 else none
      else if sign ≠ '-' ∧ sign ≠ '+' then none
      else do
        let (hours, behind) ← spanNumber? 1 2 rest
        let minutes ←
          if behind.isEmpty then pure 0
          else do
            let (minutes, final) ← spanNumber? 2 2 (← behind? ':' behind)
            if final.isEmpty then pure minutes else none
        let size : Int := hours * 60 + minutes
        pure (if sign = '-' then -size else size)

/-- The digits of a fraction behind a point, if there is one, and what follows. -/
def spanFraction (characters : List Char) : List Char × List Char :=
  match behind? '.' characters with
  | some rest => (rest.takeWhile Char.isDigit, rest.dropWhile Char.isDigit)
  | none => ([], characters)

/-- Reads a time of day up to the end. -/
def Clock.ofText? (characters : List Char) : Option Clock := do
  let (hour, rest) ← spanNumber? 1 2 characters
  let (minute, rest) ← spanNumber? 2 2 (← behind? ':' rest)
  let (second, rest) ← spanNumber? 2 2 (← behind? ':' rest)
  let (fraction, rest) := spanFraction rest
  if rest.isEmpty then pure ⟨hour, minute, second, fraction, none⟩
  else
    let zone ← readZone? (rest.dropWhile isGap)
    pure ⟨hour, minute, second, fraction, some zone⟩

namespace Timestamp

/-- The characters without a line feed at the end. -/
def withoutFinalBreak (characters : List Char) : List Char :=
  if characters.getLast? = some '\n' then characters.dropLast else characters

/-- What follows the letter or the blanks between a date and a time. -/
def behindDate? (characters : List Char) : Option (List Char) :=
  match characters with
  | [] => none
  | c :: rest =>
      if c = 'T' ∨ c = 't' then some rest
      else if isGap c then some (rest.dropWhile isGap)
      else none

/-- Reads a date that a time of day may follow. -/
def ofText? (characters : List Char) : Option Timestamp := do
  let (year, rest) ← spanNumber? 4 4 characters
  let (month, rest) ← spanDigits? 1 2 (← behind? '-' rest)
  let (day, rest) ← spanDigits? 1 2 (← behind? '-' rest)
  let padded := month.length == 2 && day.length == 2
  let monthNumber ← Number.readNatural? 10 month
  let dayNumber ← Number.readNatural? 10 day
  let clock ←
    if rest.isEmpty then pure none else some <$> Clock.ofText? (← behindDate? rest)
  pure ⟨year, monthNumber, dayNumber, padded, clock⟩

/-- A timestamp is recognised without a tag if its date is padded or a time follows. -/
def isPlain (timestamp : Timestamp) : Bool :=
  timestamp.padded || timestamp.clock.isSome

/-- A second has so many digits behind the point that count. -/
def fractionDigits : Nat := 6

/-- The microseconds of a fraction; later digits do not count. -/
def microseconds (fraction : List Char) : Nat :=
  let digits := fraction.take fractionDigits
  (Number.readDigitsFrom 10 0 (digits ++ List.replicate (fractionDigits - digits.length) '0')).getD 0

/-- The date or the moment that is written.  Of several faults the zone is the first, and
the date comes before the time of day. -/
def datum (timestamp : Timestamp) : Except CalendarFault Scalar := do
  match timestamp.clock with
  | none => pure (.date (← Date.ofNumbers timestamp.year timestamp.month timestamp.day))
  | some clock =>
      let offset ← clock.zone.mapM TimeOfDay.checkOffset
      let date ← Date.ofNumbers timestamp.year timestamp.month timestamp.day
      let time ← TimeOfDay.ofNumbers clock.hour clock.minute clock.second
        (microseconds clock.fraction) offset
      pure (.moment ⟨date, time⟩)

end Timestamp

end PathPolicy.Yaml
