import LinkHarvest.Text.Basic

/-!
# The calendar

Dates of the Gregorian calendar in the years 1 to 9999, times of day down to the microsecond, and
the number of days before a date. A date is found back from its number of days by taking the
latest year, and in it the latest month, that starts no later.
-/

namespace LinkHarvest

/-- A day of the calendar. -/
structure Date where
  year : Nat
  month : Nat
  day : Nat
  deriving DecidableEq, Repr

/-- A time of day. -/
structure TimeOfDay where
  hour : Nat
  minute : Nat
  second : Nat
  micro : Nat
  deriving DecidableEq, Repr

/-- A day and a time of day, without a time zone. -/
structure DateTime where
  date : Date
  time : TimeOfDay
  deriving DecidableEq, Repr

namespace Calendar

def isLeap (year : Nat) : Bool := year % 4 == 0 && (year % 100 != 0 || year % 400 == 0)

def daysInMonth (year month : Nat) : Nat :=
  match month with
  | 2 => if isLeap year then 29 else 28
  | 4 | 6 | 9 | 11 => 30
  | _ => 31

/-- The number of days before the first of January of a year, counted from the year 1. -/
def daysBeforeYear (year : Nat) : Nat :=
  (year - 1) * 365 + (year - 1) / 4 - (year - 1) / 100 + (year - 1) / 400

/-- The number of days of a year before the first of a month. -/
def daysBeforeMonth (year : Nat) : Nat → Nat
  | 0 => 0
  | 1 => 0
  | month + 2 => daysBeforeMonth year (month + 1) + daysInMonth year (month + 1)

/-- The greatest number up to a bound, but at least 1, at which `start` is at most `n`. -/
def latest (start : Nat → Nat) (n : Nat) : Nat → Nat
  | 0 => 1
  | k + 1 => if start (k + 1) ≤ n then k + 1 else latest start n k

end Calendar

open Calendar

namespace Date

/-- What is wrong with a date, if anything. -/
def problem? (d : Date) : Option Text :=
  if d.year < 1 ∨ 9999 < d.year then
    some (Text.concat ["year ", Text.ofNat d.year, " is out of range"])
  else if d.month < 1 ∨ 12 < d.month then some "month must be in 1..12"
  else if d.day < 1 ∨ daysInMonth d.year d.month < d.day then
    some "day is out of range for month"
  else none

/-- The number of days before a date, counted from the first of January of the year 1. -/
def dayNumber (d : Date) : Nat :=
  daysBeforeYear d.year + daysBeforeMonth d.year d.month + (d.day - 1)

/-- The date with the given number of days before it. -/
def ofDayNumber (n : Nat) : Date :=
  let year := latest daysBeforeYear n (n / 365 + 1)
  let rest := n - daysBeforeYear year
  let month := latest (daysBeforeMonth year) rest 12
  ⟨year, month, rest - daysBeforeMonth year month + 1⟩

def text (d : Date) : Text :=
  Text.padded 4 d.year ++ ['-'] ++ Text.padded 2 d.month ++ ['-'] ++ Text.padded 2 d.day

end Date

namespace TimeOfDay

/-- What is wrong with a time of day, if anything. -/
def problem? (t : TimeOfDay) : Option Text :=
  if 23 < t.hour then some "hour must be in 0..23"
  else if 59 < t.minute then some "minute must be in 0..59"
  else if 59 < t.second then some "second must be in 0..59"
  else if 999999 < t.micro then some "microsecond must be in 0..999999"
  else none

def micros (t : TimeOfDay) : Nat :=
  ((t.hour * 60 + t.minute) * 60 + t.second) * 1000000 + t.micro

/-- The time of day that many microseconds after midnight. -/
def ofMicros (n : Nat) : TimeOfDay :=
  ⟨n / 3600000000, n / 60000000 % 60, n / 1000000 % 60, n % 1000000⟩

/-- The time as `HH:MM:SS`, with six more digits for the microseconds unless there are none. -/
def text (t : TimeOfDay) : Text :=
  Text.padded 2 t.hour ++ [':'] ++ Text.padded 2 t.minute ++ [':'] ++ Text.padded 2 t.second ++
    (if t.micro = 0 then [] else '.' :: Text.padded 6 t.micro)

end TimeOfDay

namespace DateTime

/-- What is wrong with a date and time, if anything. -/
def problem? (t : DateTime) : Option Text := t.date.problem?.orElse fun _ => t.time.problem?

def microsPerDay : Nat := 86400000000

/-- The microseconds since the beginning of the year 1. -/
def micros (t : DateTime) : Nat := t.date.dayNumber * microsPerDay + t.time.micros

/-- The date and time that many microseconds after the beginning of the year 1. -/
def ofMicros (n : Nat) : DateTime :=
  ⟨Date.ofDayNumber (n / microsPerDay), TimeOfDay.ofMicros (n % microsPerDay)⟩

/-- The date and the time, separated by `sep`. -/
def text (sep : Char) (t : DateTime) : Text := t.date.text ++ [sep] ++ t.time.text

end DateTime

end LinkHarvest
