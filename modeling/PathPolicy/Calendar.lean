/-!
# Dates and times

Dates are those of the Gregorian calendar in years of four digits.  A moment is a
date with a time of day; with an offset it is fixed in time, and moments of different
offsets may be the same.
-/

namespace PathPolicy

/-- A day of the calendar. -/
structure Date where
  year : Nat
  month : Nat
  day : Nat
  deriving DecidableEq, Repr

/-- A time of day, and by how many minutes it is ahead of universal time if that is
known. -/
structure TimeOfDay where
  hour : Nat
  minute : Nat
  second : Nat
  microsecond : Nat
  offset : Option Int
  deriving DecidableEq, Repr

/-- A date and a time of day. -/
structure Moment where
  date : Date
  time : TimeOfDay
  deriving DecidableEq, Repr

/-- Why numbers make no date and no time of day. -/
inductive CalendarFault
  | year (number : Nat)
  | month
  | day
  | hour
  | minute
  | second
  | offset (minutes : Int)
  deriving DecidableEq, Repr

/-- A number with at least so many digits. -/
def paddedNumber (width number : Nat) : String :=
  let digits := (toString number).toList
  String.ofList (List.replicate (width - digits.length) '0' ++ digits)

/-- The call that makes a value of the calendar, with its arguments. -/
def calendarCall (name : String) (arguments : List String) : String :=
  "datetime." ++ name ++ "(" ++ String.intercalate ", " arguments ++ ")"

/-- How many seconds a day has. -/
def secondsOfDay : Int := 86400

/-- A number of minutes as the days and the seconds that it lasts; only the days may be
negative. -/
def durationText (minutes : Int) : String :=
  let days := (minutes * 60).fdiv secondsOfDay
  let seconds := (minutes * 60).fmod secondsOfDay
  let parts :=
    (if days = 0 then [] else ["days=" ++ toString days]) ++
      (if seconds = 0 then [] else ["seconds=" ++ toString seconds])
  calendarCall "timedelta" (if parts.isEmpty then ["0"] else parts)

/-- The fault in words. -/
def CalendarFault.message : CalendarFault → String
  | .year number => "year " ++ toString number ++ " is out of range"
  | .month => "month must be in 1..12"
  | .day => "day is out of range for month"
  | .hour => "hour must be in 0..23"
  | .minute => "minute must be in 0..59"
  | .second => "second must be in 0..59"
  | .offset minutes =>
      "offset must be a timedelta strictly between -timedelta(hours=24) and timedelta(hours=24)," ++
        " not " ++ durationText minutes ++ "."

namespace Date

/-- Every fourth year is a leap year, but of the centuries only every fourth. -/
def isLeap (year : Nat) : Bool :=
  year % 4 == 0 && (year % 100 != 0 || year % 400 == 0)

/-- The number of days of a month. -/
def daysIn (year month : Nat) : Nat :=
  if month = 2 then if isLeap year then 29 else 28
  else if month = 4 ∨ month = 6 ∨ month = 9 ∨ month = 11 then 30
  else 31

/-- The date of three numbers. -/
def ofNumbers (year month day : Nat) : Except CalendarFault Date :=
  if year = 0 then .error (.year year)
  else if month = 0 ∨ 12 < month then .error .month
  else if day = 0 ∨ daysIn year month < day then .error .day
  else .ok ⟨year, month, day⟩

/-- The number of days before a date, counted from the first year on. -/
def ordinal (date : Date) : Nat :=
  let past := date.year - 1
  let months := (List.range (date.month - 1)).map fun month => daysIn date.year (month + 1)
  past * 365 + past / 4 - past / 100 + past / 400 + months.foldl (· + ·) 0 + date.day

/-- The text of a date. -/
def text (date : Date) : String :=
  paddedNumber 4 date.year ++ "-" ++ paddedNumber 2 date.month ++ "-" ++ paddedNumber 2 date.day

/-- The numbers of a date. -/
def numbers (date : Date) : List String :=
  [toString date.year, toString date.month, toString date.day]

/-- The text of a date inside other data. -/
def quotedText (date : Date) : String :=
  calendarCall "date" date.numbers

end Date

namespace TimeOfDay

/-- An offset is shorter than a day. -/
def longestOffset : Nat := 24 * 60

/-- The time of day of some numbers. -/
def ofNumbers (hour minute second microsecond : Nat) (offset : Option Int) :
    Except CalendarFault TimeOfDay :=
  if 23 < hour then .error .hour
  else if 59 < minute then .error .minute
  else if 59 < second then .error .second
  else .ok ⟨hour, minute, second, microsecond, offset⟩

/-- An offset of some minutes, which must be shorter than a day. -/
def checkOffset (minutes : Int) : Except CalendarFault Int :=
  if minutes.natAbs < longestOffset then .ok minutes else .error (.offset minutes)

/-- The text of an offset. -/
def offsetText (minutes : Int) : String :=
  let size := minutes.natAbs
  (if minutes < 0 then "-" else "+") ++ paddedNumber 2 (size / 60) ++ ":" ++
    paddedNumber 2 (size % 60)

/-- The text of a time of day; a fraction of a second is written only if there is one. -/
def text (time : TimeOfDay) : String :=
  paddedNumber 2 time.hour ++ ":" ++ paddedNumber 2 time.minute ++ ":" ++
    paddedNumber 2 time.second ++
    (if time.microsecond = 0 then "" else "." ++ paddedNumber 6 time.microsecond) ++
    (time.offset.map offsetText).getD ""

/-- The text of an offset inside other data. -/
def quotedOffset (minutes : Int) : String :=
  if minutes = 0 then "datetime.timezone.utc"
  else calendarCall "timezone" [durationText minutes]

/-- The numbers of a time of day; those behind the minute are left out where they and
all behind them are zero. -/
def numbers (time : TimeOfDay) : List String :=
  let fraction := if time.microsecond = 0 then [] else [toString time.microsecond]
  let seconds :=
    if time.second = 0 ∧ fraction = [] then [] else toString time.second :: fraction
  toString time.hour :: toString time.minute :: seconds

/-- The microseconds since midnight. -/
def microseconds (time : TimeOfDay) : Nat :=
  ((time.hour * 60 + time.minute) * 60 + time.second) * 1000000 + time.microsecond

end TimeOfDay

namespace Moment

/-- The text of a moment. -/
def text (moment : Moment) : String :=
  moment.date.text ++ " " ++ moment.time.text

/-- The text of a moment inside other data. -/
def quotedText (moment : Moment) : String :=
  let offset :=
    match moment.time.offset with
    | none => []
    | some minutes => ["tzinfo=" ++ TimeOfDay.quotedOffset minutes]
  calendarCall "datetime" (moment.date.numbers ++ moment.time.numbers ++ offset)

/-- The microseconds of universal time up to a moment with an offset. -/
def instant (moment : Moment) (offset : Int) : Int :=
  (moment.date.ordinal : Int) * secondsOfDay * 1000000 + moment.time.microseconds -
    offset * 60 * 1000000

/-- Two moments are the same if both have an offset and they are at the same time, or if
neither has one and they read the same. -/
def same (left right : Moment) : Bool :=
  match left.time.offset, right.time.offset with
  | some a, some b => left.instant a == right.instant b
  | none, none => left == right
  | _, _ => false

end Moment

end PathPolicy
