import Outbox.Text.Blank
import Outbox.Text.Digits
import Outbox.Time.Duration

/-!
Lengths of time as people write them: numbers with units, such as `1h 30m` or `2.5s`. Blanks may
stand before and inside a number and behind a unit. Seconds, and all numbers on the way to them,
have to fit into 64 bits, and fractions have to come out even.
-/

set_option autoImplicit false

namespace Outbox.Duration

inductive Fault where
  | malformed
  /-- The sum is one second more than the longest length of time. -/
  | beyondLongest
  deriving DecidableEq, Repr

/-- A number with a unit: the whole part, the fraction as two numbers, and the unit's name. -/
structure Part where
  whole : Nat
  fraction : Option (Nat × Nat)
  unit : Text
  deriving DecidableEq, Repr

/-- A number if it fits into 64 bits. -/
def fitting (n : Nat) : Option Nat :=
  if n < 18446744073709551616 then some n else none

def isUnitChar (c : Char) : Bool :=
  c.isAlpha || c = 'µ'

/-- The number that goes on with a text, behind digits worth `n`, and what follows it. -/
def number? (n : Nat) : Text → Option (Nat × Text)
  | [] => some (n, [])
  | c :: rest =>
    match Digits.decimal? c with
    | some digit => (fitting (n * 10 + digit)).bind fun n => number? n rest
    | none => if isBlank c then number? n rest else some (n, c :: rest)

/-- The fraction that goes on with a text, behind digits worth `top` of `bottom`, and what follows
it. A fraction has at least one digit. -/
def fraction? (top bottom : Nat) : Text → Option ((Nat × Nat) × Text)
  | [] => if bottom = 1 then none else some ((top, bottom), [])
  | c :: rest =>
    match Digits.decimal? c with
    | some digit => do fraction? (← fitting (top * 10 + digit)) (← fitting (bottom * 10)) rest
    | none =>
      if isBlank c then fraction? top bottom rest
      else if isUnitChar c && bottom ≠ 1 then some ((top, bottom), c :: rest)
      else none

/-- The part that a text starts with, at a digit, and what follows it. -/
def part? (text : Text) : Option (Part × Text) := do
  if (text.head?.bind Digits.decimal?).isNone then none
  let (whole, rest) ← number? 0 text
  let (fraction, rest) ←
    match rest with
    | '.' :: rest => (fraction? 0 1 rest).map fun read => (some read.1, read.2)
    | rest => some (none, rest)
  let unit := rest.takeWhile isUnitChar
  return ({ whole, fraction, unit }, rest.drop unit.length)

/-- The length of a unit in nanoseconds and whether it is counted in whole seconds. -/
inductive Unit where
  | nanoseconds (n : Nat)
  | seconds (n : Nat)
  deriving DecidableEq, Repr

def units : List (List String × Unit) :=
  [(["nanos", "nsec", "ns"], .nanoseconds 1),
    (["usec", "us", "µs"], .nanoseconds 1000),
    (["millis", "msec", "ms"], .nanoseconds 1000000),
    (["seconds", "second", "secs", "sec", "s"], .seconds 1),
    (["minutes", "minute", "min", "mins", "m"], .seconds 60),
    (["hours", "hour", "hrs", "hr", "h"], .seconds 3600),
    (["days", "day", "d"], .seconds 86400),
    (["weeks", "week", "wks", "wk", "w"], .seconds 604800),
    (["months", "month", "M"], .seconds 2630016),
    (["years", "year", "yrs", "yr", "y"], .seconds 31557600)]

def unit? (name : Text) : Option Unit :=
  (units.find? fun entry => entry.1.any fun s => s.toList = name).map Prod.snd

/-- A length of time with seconds and nanoseconds added to it. A sum that would be too long is no
length of time; when a carry of one second alone makes it so, that is a fault of its own. -/
def add (sum seconds nanos : Nat) : Except Fault Nat :=
  let nanos := sum % second + nanos
  let seconds := sum / second + seconds
  if (fitting nanos).isNone then .error .malformed
  else if (fitting (seconds + nanos / second)).isSome then .ok (seconds * second + nanos)
  else if nanos = second && (fitting seconds).isSome then .error .beyondLongest
  else .error .malformed

/-- The whole part of a number with a unit, in seconds and nanoseconds. -/
def wholeLength? (unit : Unit) (n : Nat) : Option (Nat × Nat) :=
  match unit with
  | .nanoseconds size => (fitting (n * size)).map fun nanos => (0, nanos)
  | .seconds size => (fitting (n * size)).map fun seconds => (seconds, 0)

/-- A part of `n` that comes out even. -/
def evenPart? (n bottom : Nat) : Option Nat :=
  (fitting n).bind fun n => if n % bottom = 0 then some (n / bottom) else none

/-- The fraction of a number with a unit, in seconds and nanoseconds. There are no fractions of
nanoseconds; fractions of up to a minute come out in nanoseconds, those of more in seconds. -/
def fractionLength? (unit : Unit) (top bottom : Nat) : Option (Nat × Nat) :=
  match unit with
  | .nanoseconds 1 => none
  | .nanoseconds size => (evenPart? (top * size) bottom).map fun nanos => (0, nanos)
  | .seconds size =>
    if size ≤ 60 then (evenPart? (top * (size * second)) bottom).map fun nanos => (0, nanos)
    else (evenPart? (top * size) bottom).map fun seconds => (seconds, 0)

def addLength (sum : Nat) : Option (Nat × Nat) → Except Fault Nat
  | some (seconds, nanos) => add sum seconds nanos
  | none => .error .malformed

/-- Adds the length of a part: its whole part, then its fraction. -/
def addPart (sum : Nat) (part : Part) : Except Fault Nat :=
  match unit? part.unit with
  | none => .error .malformed
  | some unit => do
    let sum ← addLength sum (wholeLength? unit part.whole)
    match part.fraction with
    | none => return sum
    | some (top, bottom) => addLength sum (fractionLength? unit top bottom)

/-- Adds the parts of a text, at most `bound`, one after the other. There is at least one, and
behind a part comes a digit, a blank or the end. -/
def addParts : Nat → Nat → Text → Except Fault Nat
  | 0, _, _ => .error .malformed
  | bound + 1, sum, text =>
    match part? text with
    | none => .error .malformed
    | some (part, rest) =>
      if !(rest.head?.all fun c => (Digits.decimal? c).isSome || isBlank c) then .error .malformed
      else do
        let sum ← addPart sum part
        match rest.dropWhile isBlank with
        | [] => return sum
        | next => addParts bound sum next

def ofText (text : Text) : Except Fault Nat :=
  if text = ['0'] then .ok 0 else addParts (text.length + 1) 0 (text.dropWhile isBlank)

end Outbox.Duration
