/-!
Points in time and the calendar that names them: the Gregorian calendar carried on in both
directions, with a year zero, and days of 86400 seconds.
-/

set_option autoImplicit false

namespace Outbox

/-- A point in time: seconds since the start of 1970, and nanoseconds of the next second. -/
structure Timestamp where
  seconds : Int
  nanos : Nat
  deriving DecidableEq, Repr

structure Date where
  year : Int
  /-- From 1 for January. -/
  month : Nat
  day : Nat
  dayOfYear : Nat
  /-- From 0 for Monday. -/
  weekday : Nat
  deriving DecidableEq, Repr

structure Clock where
  hour : Nat
  minute : Nat
  second : Nat
  nanos : Nat
  deriving DecidableEq, Repr

namespace Calendar

/-- The days of four hundred years. -/
def cycleDays : Nat := 146097

/-- The days from the start of the year zero to the start of 1970. -/
def epochDays : Int := 719528

/-- Whether a year has a 29 February. -/
def isLeap (year : Int) : Bool :=
  year % 4 = 0 && (year % 100 ≠ 0 || year % 400 = 0)

/-- The days of the years of a cycle before one of them. -/
def yearStart (year : Nat) : Nat :=
  365 * year + (year + 3) / 4 - (year + 99) / 100 + (year + 399) / 400

/-- The year of a cycle to which one of its days belongs. No year has more than 366 days, which
gives the year or the one before. -/
def yearOfDay (day : Nat) : Nat :=
  let estimate := day / 366
  if yearStart (estimate + 1) ≤ day then estimate + 1 else estimate

def monthLengths (leap : Bool) : List Nat :=
  [31, if leap then 29 else 28, 31, 30, 31, 30, 31, 31, 30, 31, 30, 31]

/-- The month, counted on from `month`, and the day in it, both from 1, of a day counted from 0. -/
def monthOfDay (month day : Nat) : List Nat → Nat × Nat
  | [] => (month, day + 1)
  | length :: rest =>
    if day < length then (month, day + 1) else monthOfDay (month + 1) (day - length) rest

/-- The date of a day counted from the start of 1970. -/
def date (days : Int) : Date :=
  let fromZero := days + epochDays
  let day := (fromZero % cycleDays).toNat
  let yearInCycle := yearOfDay day
  let year := fromZero / cycleDays * 400 + yearInCycle
  let dayOfYear := day - yearStart yearInCycle
  let (month, dayOfMonth) := monthOfDay 1 dayOfYear (monthLengths (isLeap year))
  { year, month, day := dayOfMonth, dayOfYear := dayOfYear + 1
    weekday := ((days + 3) % 7).toNat }

/-- The weeks of a year up to a date, those that start on weekday `first` (from 0 for Monday);
the days before the first such day are in week zero. -/
def weekFrom (first : Nat) (d : Date) : Nat :=
  (d.dayOfYear + 6 - (d.weekday + 7 - first) % 7) / 7

def yearLength (year : Int) : Nat :=
  if isLeap year then 366 else 365

/-- The year and number of the week of a date, where weeks start on Monday and belong to the year
of their Thursday. -/
def week (d : Date) : Int × Nat :=
  let thursday : Int := (d.dayOfYear : Int) + 3 - d.weekday
  if thursday < 1 then
    (d.year - 1, ((thursday + yearLength (d.year - 1) + 6) / 7).toNat)
  else if (yearLength d.year : Int) < thursday then (d.year + 1, 1)
  else (d.year, ((thursday + 6) / 7).toNat)

end Calendar

namespace Timestamp

/-- Whether a clock that shows a point in time can be read: from the start of 1970 to the end of the
year 262142. -/
def isReadable (t : Timestamp) : Bool :=
  0 ≤ t.seconds && t.seconds ≤ 8210266876799

def date (t : Timestamp) : Date :=
  Calendar.date (t.seconds / 86400)

def clock (t : Timestamp) : Clock :=
  let second := (t.seconds % 86400).toNat
  { hour := second / 3600, minute := second / 60 % 60, second := second % 60, nanos := t.nanos }

end Timestamp

end Outbox
