import BezelStream.Text.Digits

/-! # Calendar dates and moments

Dates of the proleptic Gregorian calendar in the years 1 to 9999, and moments
with an optional distance from universal time. Each has an ISO text and a long
form that shows its parts.
-/

namespace BezelStream

open Text (padded)

/-- A calendar date. -/
structure Date where
  /-- The year, from 1 to 9999. -/
  year : Nat
  /-- The month, from 1. -/
  month : Nat
  /-- The day, from 1. -/
  day : Nat
  deriving Repr, DecidableEq

namespace Date

def isLeap (year : Nat) : Bool :=
  year % 4 = 0 && (year % 100 != 0 || year % 400 = 0)

/-- The number of days of a month, zero for numbers that are no month. -/
def daysIn (year month : Nat) : Nat :=
  match month with
  | 1 | 3 | 5 | 7 | 8 | 10 | 12 => 31
  | 4 | 6 | 9 | 11 => 30
  | 2 => if isLeap year then 29 else 28
  | _ => 0

/-- The date with these parts, if there is one. -/
def ofParts? (year month day : Nat) : Option Date :=
  if 1 ≤ year && year ≤ 9999 && 1 ≤ day && day ≤ daysIn year month then some ⟨year, month, day⟩
  else none

/-- The number of days before the date, counted from the first day of year 1. -/
def dayNumber (d : Date) : Nat :=
  let past := d.year - 1
  let months := (List.range (d.month - 1)).map fun m => daysIn d.year (m + 1)
  past * 365 + past / 4 - past / 100 + past / 400 + months.foldl (· + ·) 0 + (d.day - 1)

def text (d : Date) : String :=
  padded 4 d.year ++ "-" ++ padded 2 d.month ++ "-" ++ padded 2 d.day

/-- The parts of a date as a list of numbers. -/
def parts (d : Date) : List Nat :=
  [d.year, d.month, d.day]

def longText (d : Date) : String :=
  "datetime.date(" ++ ", ".intercalate (d.parts.map toString) ++ ")"

end Date

/-- A date with a time of day. -/
structure Moment where
  date : Date
  /-- The hour, from 0 to 23. -/
  hour : Nat
  /-- The minute, from 0 to 59. -/
  minute : Nat
  /-- The second, from 0 to 59. -/
  second : Nat
  micros : Nat
  /-- Minutes ahead of universal time, where the moment says so. -/
  offset : Option Int
  deriving Repr, DecidableEq

namespace Moment

/-- The moment with these parts, if there is one; offsets stay below a day. -/
def ofParts? (date : Date) (hour minute second micros : Nat) (offset : Option Int) :
    Option Moment :=
  if hour < 24 && minute < 60 && second < 60 && (offset.getD 0).natAbs < 24 * 60 then
    some ⟨date, hour, minute, second, micros, offset⟩
  else none

/-- Millionths of a second since the first day of year 1, in universal time if the
    moment has an offset. -/
def instant (t : Moment) : Int :=
  let minutes : Int := ((t.date.dayNumber * 24 + t.hour) * 60 + t.minute : Nat)
  ((minutes - t.offset.getD 0) * 60 + t.second) * 1000000 + t.micros

/-- Whether two moments are the same: both with an offset or both without, and at
    the same instant. -/
def same (s t : Moment) : Bool :=
  s.offset.isSome == t.offset.isSome && s.instant == t.instant

def offsetText (minutes : Int) : String :=
  (if minutes < 0 then "-" else "+") ++ padded 2 (minutes.natAbs / 60) ++ ":" ++
    padded 2 (minutes.natAbs % 60)

/-- The ISO text of a moment with a separator between date and time. -/
def text (separator : String) (t : Moment) : String :=
  t.date.text ++ separator ++ padded 2 t.hour ++ ":" ++ padded 2 t.minute ++ ":" ++
    padded 2 t.second ++ (if t.micros = 0 then "" else "." ++ padded 6 t.micros) ++
    (match t.offset with
      | some minutes => offsetText minutes
      | none => "")

/-- The long form of an offset: days and seconds of the distance. -/
def offsetLongText (minutes : Int) : String :=
  if minutes = 0 then "datetime.timezone.utc"
  else if minutes < 0 then
    "datetime.timezone(datetime.timedelta(days=-1, seconds=" ++
      toString ((minutes + 24 * 60) * 60) ++ "))"
  else "datetime.timezone(datetime.timedelta(seconds=" ++ toString (minutes * 60) ++ "))"

/-- The long form of a moment; seconds and millionths that are zero are left out. -/
def longText (t : Moment) : String :=
  let tail :=
    if t.micros ≠ 0 then [t.second, t.micros] else if t.second ≠ 0 then [t.second] else []
  let numbers := t.date.parts ++ [t.hour, t.minute] ++ tail
  "datetime.datetime(" ++ ", ".intercalate (numbers.map toString) ++
    (match t.offset with
      | some minutes => ", tzinfo=" ++ offsetLongText minutes
      | none => "") ++ ")"

end Moment

end BezelStream
