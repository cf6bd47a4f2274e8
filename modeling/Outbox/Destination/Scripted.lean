import Outbox.Destination.Delivery
import Outbox.Connection

/-!
A destination that acts by a script, to rehearse outages: each delivery takes the next action, and
when the script has ended every delivery succeeds.
-/

set_option autoImplicit false

namespace Outbox

/-- How a delivery to a scripted destination ends. -/
inductive Action where
  /-- The file is read and kept. -/
  | keep
  /-- The delivery succeeds without a look at the file. -/
  | accept
  | fail (cause : UploadError)
  /-- The delivery waits for another action. -/
  | hold
  deriving DecidableEq, Repr

structure Scripted where
  script : List Action
  /-- The local directory that it claims to write into. -/
  directory : Option Path
  attempts : Nat
  /-- The files kept, in the order in which they came. -/
  received : List (Name × Bytes)
  deriving DecidableEq, Repr

namespace Scripted

def ofScript (script : List Action) (directory : Option Path) : Scripted :=
  { script, directory, attempts := 0, received := [] }

/-- Refuses the connections that ask for a refusal. -/
def configure (connection : Connection) : Except UploadError Unit :=
  if connection.rest = "reject".toList then
    .error (.descriptor (.other "rejected by fake backend"))
  else if connection.rest = "broken".toList then .error (.other "fake backend is broken")
  else .ok ()

/-- Ends a delivery by an action, unless the action is to wait. -/
def act (s : Scripted) (path : Path) (source : Handle) (action : Action) (w : World) :
    Turn × Scripted × World :=
  match action with
  | .hold => (.next .held, s, w)
  | .accept => (.ended (.ok ()), s, w)
  | .fail cause => (.ended (.error cause), s, w)
  | .keep =>
    match w.attempt (Disk.read source) with
    | (.error e, w) => (.ended (.error (.io e)), s, w)
    | (.ok bytes, w) =>
      (.ended (.ok ()),
        { s with received := s.received ++ [(path.fileName?.getD [], bytes)] }, w)

def turn (s : Scripted) (path : Path) (source : Handle) (stage : Delivery) (w : World) :
    Turn × Scripted × World :=
  match stage with
  | .held => (.next .held, s, w)
  | _ =>
    { s with attempts := s.attempts + 1, script := s.script.drop 1 }.act path source
      (s.script.headD .keep) w

end Scripted

end Outbox
