/-
# Dates and times of day

Days of the calendar, times of day to the microsecond and moments that have both, with or without
an offset from universal time.  `Date.fault?` and `TimeOfDay.fault?` say what is wrong with numbers
that name no day or no time.
-/

import TypeFiles.Decimal.Digits

namespace TypeFiles

/-- A day of the calendar. -/
structure Date where
  year : Nat
  month : Nat
  day : Nat
  deriving DecidableEq, Repr

/-- A time of day. -/
structure TimeOfDay where
  hour : Nat
  minute : Nat
  second : Nat
  microsecond : Nat
  deriving DecidableEq, Repr

/-- A day and a time of day, and the minutes and seconds by which its clock is ahead of universal
time, if it tells. -/
structure Moment where
  date : Date
  time : TimeOfDay
  offsetSeconds : Option Int
  deriving DecidableEq, Repr

/-- Why numbers name no day, no time or no offset. -/
inductive CalendarFault
  | year (n : Nat)
  | month
  | day
  | hour
  | minute
  | second
  deriving DecidableEq, Repr

/-- The fault in words. -/
def CalendarFault.message : CalendarFault → String
  | .year n => s!"year {n} is out of range"
  | .month => "month must be in 1..12"
  | .day => "day is out of range for month"
  | .hour => "hour must be in 0..23"
  | .minute => "minute must be in 0..59"
  | .second => "second must be in 0..59"

namespace Date

/-- Whether a year has a twenty-ninth of February. -/
def isLeap (year : Nat) : Bool := year % 4 == 0 && (year % 100 != 0 || year % 400 == 0)

/-- The number of days of a month. -/
def daysIn (year month : Nat) : Nat :=
  if month = 2 then if isLeap year then 29 else 28
  else if month = 4 ∨ month = 6 ∨ month = 9 ∨ month = 11 then 30
  else 31

/-- The first part of a date that is out of range. -/
def fault? (d : Date) : Option CalendarFault :=
  if d.year < 1 ∨ 9999 < d.year then some (.year d.year)
  else if d.month < 1 ∨ 12 < d.month then some .month
  else if d.day < 1 ∨ daysIn d.year d.month < d.day then some .day
  else none

/-- A date as year, month and day with hyphens. -/
def text (d : Date) : String :=
  Decimal.padded 4 d.year ++ "-" ++ Decimal.padded 2 d.month ++ "-" ++ Decimal.padded 2 d.day

end Date

namespace TimeOfDay

/-- The first part of a time that is out of range. -/
def fault? (t : TimeOfDay) : Option CalendarFault :=
  if 23 < t.hour then some .hour
  else if 59 < t.minute then some .minute
  else if 59 < t.second then some .second
  else none

/-- A time as hours, minutes and seconds with colons, and its microseconds if it has any. -/
def text (t : TimeOfDay) : String :=
  Decimal.padded 2 t.hour ++ ":" ++ Decimal.padded 2 t.minute ++ ":" ++ Decimal.padded 2 t.second ++
    (if t.microsecond = 0 then "" else "." ++ Decimal.padded 6 t.microsecond)

end TimeOfDay

namespace Moment

/-- The number of days from the first day of the calendar to a date. -/
def daysBefore (d : Date) : Nat :=
  let year := d.year - 1
  365 * year + year / 4 - year / 100 + year / 400 +
    (List.range (d.month - 1)).foldl (fun days month => days + Date.daysIn d.year (month + 1)) 0 +
    d.day

/-- The number of microseconds from the first day of the calendar to a date and a time of day. -/
def microseconds (m : Moment) : Int :=
  ((daysBefore m.date * 24 + m.time.hour) * 60 + m.time.minute) * 60000000 +
    m.time.second * 1000000 + m.time.microsecond

/-- Whether two moments are the same: both tell their offsets and are at the same time of the world,
or neither tells one and they are alike. -/
def isSame (m n : Moment) : Bool :=
  match m.offsetSeconds, n.offsetSeconds with
  | some a, some b => m.microseconds - a * 1000000 == n.microseconds - b * 1000000
  | none, none => m == n
  | _, _ => false

/-- An offset as sign, hours and minutes, and its seconds if it has any. -/
def offsetText (seconds : Int) : String :=
  let n := seconds.natAbs
  (if seconds < 0 then "-" else "+") ++ Decimal.padded 2 (n / 3600) ++ ":" ++
    Decimal.padded 2 (n / 60 % 60) ++ (if n % 60 = 0 then "" else ":" ++ Decimal.padded 2 (n % 60))

/-- A moment as its date and its time, and its offset if it tells. -/
def text (m : Moment) : String :=
  m.date.text ++ " " ++ m.time.text ++ (m.offsetSeconds.map offsetText).getD ""

end Moment

end TypeFiles
