import Outbox.Text.Digits

/-!
Lengths of time, in nanoseconds, and their text in the log: the largest of the units s, ms, µs and
ns that is not too large, with as many decimals as are needed.
-/

set_option autoImplicit false

namespace Outbox.Duration

def second : Nat := 1000000000

def millisecond : Nat := 1000000

/-- A multiple of a unit with `places` decimals, without zeros at the end. -/
def inUnit (places : Nat) (unit : String) (n : Nat) : Text :=
  let size := Nat.pow 10 places
  let decimals := (Digits.zeroed places (n % size)).reverse.dropWhile (· = '0') |>.reverse
  Digits.decimal (n / size) ++ (if n % size = 0 then [] else '.' :: decimals) ++ unit.toList

def text (n : Nat) : Text :=
  if second ≤ n then inUnit 9 "s" n
  else if millisecond ≤ n then inUnit 6 "ms" n
  else if 1000 ≤ n then inUnit 3 "µs" n
  else inUnit 0 "ns" n

end Outbox.Duration
