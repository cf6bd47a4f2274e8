import Outbox.Destination.Archive
import Outbox.Destination.ObjectStore
import Outbox.Destination.Scripted

/-!
Destinations: where rolled files go. A destination is set up with a connection, then takes files
one delivery at a time, a turn at a time.
-/

set_option autoImplicit false

namespace Outbox

inductive Destination where
  | archive (a : Archive)
  | store (s : ObjectStore)
  | scripted (s : Scripted)
  deriving Repr

namespace Destination

/-- Sets a destination up with a connection. One that refuses it stays as it was. -/
def configure (b : Destination) (connection : Connection) (w : World) :
    Except UploadError Unit × Destination × World :=
  match b with
  | .archive a =>
    match a.configure connection w with
    | (result, a, w) => (result, .archive a, w)
  | .store s =>
    match s.configure connection with
    | (result, s) => (result, .store s, w)
  | .scripted s => (Scripted.configure connection, .scripted s, w)

def turn (b : Destination) (path : Path) (source : Handle) (stage : Delivery) (w : World) :
    Turn × Destination × World :=
  match b with
  | .archive a =>
    match a.turn path source stage w with
    | (turn, a, w) => (turn, .archive a, w)
  | .store s =>
    match s.turn path source w with
    | (turn, s, w) => (turn, .store s, w)
  | .scripted s =>
    match s.turn path source stage w with
    | (turn, s, w) => (turn, .scripted s, w)

/-- Ends a delivery that waits, by an action; only a scripted destination lets deliveries wait. -/
def act (b : Destination) (path : Path) (source : Handle) (action : Action) (w : World) :
    Turn × Destination × World :=
  match b with
  | .scripted s =>
    match s.act path source action w with
    | (turn, s, w) => (turn, .scripted s, w)
  | b => (.next .held, b, w)

/-- The identity of a destination, which tells configured ones apart. -/
def key : Destination → String
  | .archive a => "local_mirror:" ++ a.directory.text
  | .store s => "object_store:" ++ String.ofList s.label ++ "/" ++ String.ofList s.front.text
  | .scripted _ => "fake"

def describe : Destination → String
  | .archive a => "local mirror into " ++ a.directory.text
  | .store s => "object store " ++ String.ofList s.label
  | .scripted _ => "fake backend"

def localDirectory : Destination → Option Path
  | .archive a => some a.directory
  | .store _ => none
  | .scripted s => s.directory

def counters : Destination → List (String × Nat)
  | .archive a =>
    [("files_mirrored", a.tally.files), ("bytes_mirrored", a.tally.bytes),
      ("failures", a.tally.failures)]
  | .store s =>
    [("objects_uploaded", s.tally.files), ("bytes_uploaded", s.tally.bytes),
      ("failures", s.tally.failures)]
  | .scripted s => [("attempts", s.attempts)]

/-- The counters of a destination for a status page. -/
def report (b : Destination) : Report :=
  .record (b.counters.map fun counter => (counter.1, .number counter.2))

end Destination

end Outbox
