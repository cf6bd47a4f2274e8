import Outbox.Disk.Tree
import Outbox.Event
import Outbox.Time.Pattern

/-!
What the program acts on: a disk, two clocks, and the log.
-/

set_option autoImplicit false

namespace Outbox

/-- The surroundings of the program. -/
structure World where
  disk : Disk
  /-- The date and time that the wall clock shows. It may be set in any direction. -/
  wall : Timestamp
  /-- Nanoseconds since the program started, which never decrease. -/
  now : Nat
  log : List Event
  deriving Repr

namespace World

def tell (w : World) (event : Event) : World :=
  { w with log := w.log ++ [event] }

def attempt {α : Type} (w : World) (operation : Disk → Except IoError (α × Disk)) :
    Except IoError α × World :=
  let (result, disk) := w.disk.attempt operation
  (result, { w with disk })

end World

end Outbox
