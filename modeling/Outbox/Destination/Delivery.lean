import Outbox.Destination.Error
import Outbox.World

/-!
The delivery of one file to a destination, in turns. Between two turns other deliveries may take
theirs.
-/

set_option autoImplicit false

namespace Outbox

/-- Where a delivery stands before its next turn. -/
inductive Delivery where
  | begun
  /-- The copy is open and empty. -/
  | copying (out : Handle)
  /-- The copy is complete but may not be on stable storage. -/
  | syncing (out : Handle) (bytes : Nat)
  /-- The copy has still to get its final name. -/
  | naming (bytes : Nat)
  | held
  deriving DecidableEq, Repr

/-- What a turn comes to. -/
inductive Turn where
  | next (stage : Delivery)
  | ended (result : Except UploadError Unit)
  deriving Repr

/-- What a destination counts. -/
structure Tally where
  files : Nat
  bytes : Nat
  failures : Nat
  deriving DecidableEq, Repr

namespace Tally

def zero : Tally :=
  { files := 0, bytes := 0, failures := 0 }

def took (t : Tally) (bytes : Nat) : Tally :=
  { t with files := t.files + 1, bytes := t.bytes + bytes }

def failed (t : Tally) : Tally :=
  { t with failures := t.failures + 1 }

end Tally

/-- The file name that an upload has at its destination. -/
def uploadName (path : Path) : Except UploadError Name :=
  match path.fileName? with
  | some name => .ok name
  | none => .error (.noFileName path)

end Outbox
