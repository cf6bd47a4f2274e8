import Outbox.Time.Calendar
import Outbox.Text.Digits

/-!
Patterns that say how a point in time is written: plain text with fields, each a percent sign and
a letter, and how the fields of a point in time in UTC are written out.
-/

set_option autoImplicit false

namespace Outbox

/-- How a number is filled up to its width. -/
inductive Padding where
  | none
  | zero
  | space
  deriving DecidableEq, Repr

/-- A field that is a number. -/
inductive TimeField where
  | year | century | yearOfCentury
  | weekYear | weekYearOfCentury
  | quarter | month | day | dayOfYear
  | weekFromSunday | weekFromMonday | week
  | daysFromSunday | weekdayFromMonday
  | hour | hour12 | minute | second | nanosecond
  | secondsSinceEpoch
  deriving DecidableEq, Repr

inductive PatternItem where
  | literal (c : Char)
  | number (field : TimeField) (padding : Padding)
  | longWeekday
  | shortWeekday
  | longMonth
  | shortMonth
  | upperHalf
  | lowerHalf
  | zone
  /-- The offset from UTC: with colons, and how many parts of hours, minutes, seconds. -/
  | offset (colons : Bool) (parts : Nat)
  /-- A fraction of a second, of as many digits as it needs: none, 3, 6 or 9. -/
  | fraction
  /-- A fraction of a second with a number of digits, behind a point or not. -/
  | fixedFraction (point : Bool) (digits : Nat)
  | dateTime
  deriving DecidableEq, Repr

namespace Pattern

open PatternItem TimeField

def literals (s : String) : List PatternItem :=
  s.toList.map literal

def timeItems : List PatternItem :=
  [number hour .zero, literal ':', number minute .zero, literal ':', number second .zero]

/-- Month, day and year of the century with slashes. -/
def slashedDateItems : List PatternItem :=
  [number month .zero, literal '/', number day .zero, literal '/', number yearOfCentury .zero]

def field? : Char → Option (List PatternItem)
  | 'A' => some [longWeekday]
  | 'B' => some [longMonth]
  | 'C' => some [number century .zero]
  | 'D' => some slashedDateItems
  | 'F' => some [number year .zero, literal '-', number month .zero, literal '-', number day .zero]
  | 'G' => some [number weekYear .zero]
  | 'H' => some [number hour .zero]
  | 'I' => some [number hour12 .zero]
  | 'M' => some [number minute .zero]
  | 'P' => some [lowerHalf]
  | 'R' => some [number hour .zero, literal ':', number minute .zero]
  | 'S' => some [number second .zero]
  | 'T' => some timeItems
  | 'U' => some [number weekFromSunday .zero]
  | 'V' => some [number week .zero]
  | 'W' => some [number weekFromMonday .zero]
  | 'X' => some timeItems
  | 'Y' => some [number year .zero]
  | 'Z' => some [zone]
  | 'a' => some [shortWeekday]
  | 'b' => some [shortMonth]
  | 'c' => some ([shortWeekday, literal ' ', shortMonth, literal ' ', number day .space]
      ++ literal ' ' :: timeItems ++ [literal ' ', number year .zero])
  | 'd' => some [number day .zero]
  | 'e' => some [number day .space]
  | 'f' => some [number nanosecond .zero]
  | 'g' => some [number weekYearOfCentury .zero]
  | 'h' => some [shortMonth]
  | 'j' => some [number dayOfYear .zero]
  | 'k' => some [number hour .space]
  | 'l' => some [number hour12 .space]
  | 'm' => some [number month .zero]
  | 'n' => some [literal '\n']
  | 'p' => some [upperHalf]
  | 'q' => some [number quarter .none]
  | 'r' => some [number hour12 .zero, literal ':', number minute .zero, literal ':',
      number second .zero, literal ' ', upperHalf]
  | 's' => some [number secondsSinceEpoch .none]
  | 't' => some [literal '\t']
  | 'u' => some [number weekdayFromMonday .none]
  | 'v' => some [number day .space, literal '-', shortMonth, literal '-', number year .zero]
  | 'w' => some [number daysFromSunday .none]
  | 'x' => some slashedDateItems
  | 'y' => some [number yearOfCentury .zero]
  | 'z' => some [offset false 2]
  | '+' => some [dateTime]
  | '%' => some [literal '%']
  | _ => none

/-- The number field of a letter with another padding than its own; only a field that is one
number has a padding. -/
def padded? (padding : Padding) (letter : Char) : Option (List PatternItem) :=
  match field? letter with
  | some [number field _] => some [number field padding]
  | _ => none

def items? : Text → Option (List PatternItem)
  | [] => some []
  | '%' :: ':' :: ':' :: ':' :: 'z' :: rest => (items? rest).map (offset true 1 :: ·)
  | '%' :: ':' :: ':' :: 'z' :: rest => (items? rest).map (offset true 3 :: ·)
  | '%' :: ':' :: 'z' :: rest => (items? rest).map (offset true 2 :: ·)
  | '%' :: '.' :: 'f' :: rest => (items? rest).map (fraction :: ·)
  | '%' :: '.' :: '3' :: 'f' :: rest => (items? rest).map (fixedFraction true 3 :: ·)
  | '%' :: '.' :: '6' :: 'f' :: rest => (items? rest).map (fixedFraction true 6 :: ·)
  | '%' :: '.' :: '9' :: 'f' :: rest => (items? rest).map (fixedFraction true 9 :: ·)
  | '%' :: '3' :: 'f' :: rest => (items? rest).map (fixedFraction false 3 :: ·)
  | '%' :: '6' :: 'f' :: rest => (items? rest).map (fixedFraction false 6 :: ·)
  | '%' :: '9' :: 'f' :: rest => (items? rest).map (fixedFraction false 9 :: ·)
  | '%' :: '-' :: letter :: rest => do return (← padded? .none letter) ++ (← items? rest)
  | '%' :: '0' :: letter :: rest => do return (← padded? .zero letter) ++ (← items? rest)
  | '%' :: '_' :: letter :: rest => do return (← padded? .space letter) ++ (← items? rest)
  | '%' :: letter :: rest => do return (← field? letter) ++ (← items? rest)
  | ['%'] => none
  | c :: rest => (items? rest).map (literal c :: ·)

def monthNames : List String :=
  ["January", "February", "March", "April", "May", "June", "July", "August", "September",
    "October", "November", "December"]

/-- The names of the weekdays, from Monday. -/
def weekdayNames : List String :=
  ["Monday", "Tuesday", "Wednesday", "Thursday", "Friday", "Saturday", "Sunday"]

/-- An integer in decimal, with a sign if it is negative or `signed`, filled up to a width; zeros
stand behind the sign and spaces before it. -/
def signedText (signed : Bool) (width : Nat) (padding : Padding) (n : Int) : Text :=
  let sign : Text := if n < 0 then ['-'] else if signed then ['+'] else []
  let digits := Digits.decimal n.natAbs
  match padding with
  | .none => sign ++ digits
  | .zero => sign ++ Digits.fillTo (width - sign.length) '0' digits
  | .space => Digits.fillTo width ' ' (sign ++ digits)

/-- A year: four digits, or five places with a sign for a year that has more or is before the
year zero. -/
def yearText (padding : Padding) (year : Int) : Text :=
  if 0 ≤ year ∧ year < 10000 then signedText false 4 padding year
  else signedText true 5 padding year

/-- A number below 256 in two places. The first place counts tens, beyond nine with the characters
that follow the digit nine. -/
def twoPlaces (padding : Padding) (n : Nat) : Text :=
  let ones := Char.ofNat (48 + n % 10)
  match padding with
  | .none => if n < 10 then [ones] else [Char.ofNat (48 + n / 10), ones]
  | .space => [if n < 10 then ' ' else Char.ofNat (48 + n / 10), ones]
  | .zero => [Char.ofNat (48 + n / 10), ones]

/-- The hour as clocks of twelve hours show it. -/
def hourOfHalf (hour : Nat) : Nat :=
  if hour % 12 = 0 then 12 else hour % 12

def numberText (t : Timestamp) (field : TimeField) (padding : Padding) : Text :=
  let date := t.date
  let clock := t.clock
  match field with
  | .year => yearText padding date.year
  | .century => twoPlaces padding ((date.year / 100) % 256).toNat
  | .yearOfCentury => twoPlaces padding (date.year % 100).toNat
  | .weekYear => yearText padding (Calendar.week date).1
  | .weekYearOfCentury => twoPlaces padding ((Calendar.week date).1 % 100).toNat
  | .quarter => Digits.decimal ((date.month - 1) / 3 + 1)
  | .month => twoPlaces padding date.month
  | .day => twoPlaces padding date.day
  | .dayOfYear => signedText false 3 padding date.dayOfYear
  | .weekFromSunday => twoPlaces padding (Calendar.weekFrom 6 date)
  | .weekFromMonday => twoPlaces padding (Calendar.weekFrom 0 date)
  | .week => twoPlaces padding (Calendar.week date).2
  | .daysFromSunday => Digits.decimal ((date.weekday + 1) % 7)
  | .weekdayFromMonday => Digits.decimal (date.weekday + 1)
  | .hour => twoPlaces padding clock.hour
  | .hour12 => twoPlaces padding (hourOfHalf clock.hour)
  | .minute => twoPlaces padding clock.minute
  | .second => twoPlaces padding clock.second
  | .nanosecond => signedText false 9 padding clock.nanos
  | .secondsSinceEpoch => signedText false 9 padding t.seconds

/-- The leading digits of a fraction given in nanoseconds. -/
def fractionDigits (digits nanos : Nat) : Text :=
  (Digits.zeroed 9 nanos).take digits

/-- A fraction behind a point, of as many digits as it needs: none, 3, 6 or 9. -/
def fractionText (nanos : Nat) : Text :=
  if nanos = 0 then []
  else if nanos % 1000000 = 0 then '.' :: fractionDigits 3 nanos
  else if nanos % 1000 = 0 then '.' :: fractionDigits 6 nanos
  else '.' :: fractionDigits 9 nanos

/-- The offset of UTC from itself. -/
def offsetText (colons : Bool) (parts : Nat) : Text :=
  '+' :: (if colons then [':'] else []).intercalate (List.replicate parts ['0', '0'])

/-- A date and a time of day, joined by a `T`, with the fraction that is needed. -/
def dateTimeText (t : Timestamp) : Text :=
  yearText .zero t.date.year
    ++ '-' :: Digits.zeroed 2 t.date.month ++ '-' :: Digits.zeroed 2 t.date.day
    ++ 'T' :: Digits.zeroed 2 t.clock.hour ++ ':' :: Digits.zeroed 2 t.clock.minute
    ++ ':' :: Digits.zeroed 2 t.clock.second ++ fractionText t.clock.nanos

def itemText (t : Timestamp) : PatternItem → Text
  | .literal c => [c]
  | .number field padding => numberText t field padding
  | .longWeekday => (weekdayNames.getD t.date.weekday "").toList
  | .shortWeekday => (weekdayNames.getD t.date.weekday "").toList.take 3
  | .longMonth => (monthNames.getD (t.date.month - 1) "").toList
  | .shortMonth => (monthNames.getD (t.date.month - 1) "").toList.take 3
  | .upperHalf => if t.clock.hour < 12 then ['A', 'M'] else ['P', 'M']
  | .lowerHalf => if t.clock.hour < 12 then ['a', 'm'] else ['p', 'm']
  | .zone => ['U', 'T', 'C']
  | .offset colons parts => offsetText colons parts
  | .fraction => fractionText t.clock.nanos
  | .fixedFraction point digits =>
    (if point then ['.'] else []) ++ fractionDigits digits t.clock.nanos
  | .dateTime => dateTimeText t ++ offsetText true 2

end Pattern

namespace Timestamp

/-- A point in time written by a pattern, if the pattern has no unknown field. -/
def format? (t : Timestamp) (pattern : Text) : Option Text :=
  (Pattern.items? pattern).map fun items => items.flatMap (Pattern.itemText t)

/-- A point in time as dates are exchanged: date, `T`, time of day and `Z`. -/
def text (t : Timestamp) : Text :=
  Pattern.dateTimeText t ++ ['Z']

end Timestamp

end Outbox
