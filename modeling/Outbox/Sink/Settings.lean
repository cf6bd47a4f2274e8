import Outbox.FailureLog
import Outbox.Time.Duration

/-!
The settings of a sink.
-/

set_option autoImplicit false

namespace Outbox

/-- The settings of a sink. Intervals are in nanoseconds. -/
structure Settings where
  /-- Where records are kept and where they go. -/
  connection : Text
  baseName : Name
  /-- A record that would make the live file longer rolls it over first. -/
  maxFileSize : Nat
  /-- A live file older than this is rolled over. -/
  rollInterval : Nat
  tickInterval : Nat
  /-- The most uploads at a time, if there is a limit. -/
  maxInFlight : Option Nat
  /-- The least time between two failures told to the log. -/
  failureLogInterval : Nat
  deriving DecidableEq, Repr

namespace Settings

/-- The buffer directory of a connection that names none. -/
def defaultBufferDir : Path :=
  .ofString "/var/lib/spool/bundles"

/-- The settings used where nothing else is chosen; the connection has to be. -/
def default : Settings :=
  { connection := []
    baseName := "event-bundle".toList
    maxFileSize := 10485760
    rollInterval := 300 * Duration.second
    tickInterval := Duration.second
    maxInFlight := none
    failureLogInterval := FailureLog.defaultInterval }

end Settings

end Outbox
