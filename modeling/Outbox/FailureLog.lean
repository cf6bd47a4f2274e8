import Outbox.Event

/-!
Failures told to the log at most once per interval. A failure that comes too early is counted and
kept back; the next one told says how many were.
-/

set_option autoImplicit false

namespace Outbox

/-- The state of a failure log. Times and intervals are in nanoseconds. -/
structure FailureLog where
  interval : Nat
  /-- When a failure was last told. -/
  lastTold : Option Nat
  /-- Failures kept back since then. -/
  suppressed : Nat
  total : Nat
  deriving DecidableEq, Repr

namespace FailureLog

/-- The interval used where none is chosen: ten seconds. -/
def defaultInterval : Nat := 10000000000

def ofInterval (interval : Nat) : FailureLog :=
  { interval, lastTold := none, suppressed := 0, total := 0 }

/-- Whether a failure at a time is told: the first one, and each that comes at least an interval
after the last one told. -/
def isDue (log : FailureLog) (now : Nat) : Bool :=
  match log.lastTold with
  | none => true
  | some last => log.interval ≤ now - last

/-- Counts a failure; the event if it is told. -/
def record (log : FailureLog) (now : Nat) (message : String) (path : Path) (cause : String) :
    FailureLog × Option Event :=
  let total := log.total + 1
  if log.isDue now then
    ({ log with lastTold := some now, suppressed := 0, total },
      some (.failure message path cause total log.suppressed))
  else ({ log with suppressed := log.suppressed + 1, total }, none)

end FailureLog

end Outbox
