import Outbox.Destination.Basic

/-!
One attempt to upload one file: the file is opened, delivered and, if the destination has taken
it, removed. An upload goes on in turns, each with at most a few operations of the disk, so that
several uploads can be interleaved.
-/

set_option autoImplicit false

namespace Outbox

inductive Phase where
  | opening
  | delivering (source : Handle) (stage : Delivery)
  | removing
  | ended (result : Except UploadError Unit)
  deriving Repr

structure Upload where
  path : Path
  phase : Phase
  deriving Repr

namespace Upload

/-- An upload that has not done anything. -/
def ofPath (path : Path) : Upload :=
  { path, phase := .opening }

def afterTurn (source : Handle) : Turn → Phase
  | .next stage => .delivering source stage
  | .ended (.ok ()) => .removing
  | .ended (.error e) => .ended (.error e)

/-- One turn of an upload. A file that cannot be removed after its delivery is told and left. -/
def turn (u : Upload) (b : Destination) (w : World) : Upload × Destination × World :=
  match u.phase with
  | .opening =>
    match w.attempt (Disk.openRead u.path) with
    | (.error e, w) => ({ u with phase := .ended (.error (.io e)) }, b, w)
    | (.ok source, w) => ({ u with phase := .delivering source .begun }, b, w)
  | .delivering source stage =>
    match b.turn u.path source stage w with
    | (turn, b, w) => ({ u with phase := afterTurn source turn }, b, w)
  | .removing =>
    match w.attempt (Disk.remove u.path) with
    | (.error e, w) => ({ u with phase := .ended (.ok ()) }, b, w.tell (.keptAfterUpload u.path e))
    | (.ok (), w) => ({ u with phase := .ended (.ok ()) }, b, w)
  | .ended _ => (u, b, w)

/-- Ends the delivery of an upload that waits, by an action. -/
def release (u : Upload) (action : Action) (b : Destination) (w : World) :
    Upload × Destination × World :=
  match u.phase with
  | .delivering source .held =>
    match b.act u.path source action w with
    | (turn, b, w) => ({ u with phase := afterTurn source turn }, b, w)
  | _ => (u, b, w)

/-- The most turns of an upload: opening, at most four of a delivery, and removing. -/
def maxTurns : Nat := 6

def turns : Nat → Upload → Destination → World → Upload × Destination × World
  | 0, u, b, w => (u, b, w)
  | n + 1, u, b, w =>
    match u.turn b w with
    | (u, b, w) => turns n u b w

/-- Goes on until the upload has ended or waits. -/
def run (u : Upload) (b : Destination) (w : World) : Upload × Destination × World :=
  turns maxTurns u b w

/-- Whether an upload waits to be told how it ends. -/
def isHeld (u : Upload) : Bool :=
  match u.phase with
  | .delivering _ .held => true
  | _ => false

def result? (u : Upload) : Option (Except UploadError Unit) :=
  match u.phase with
  | .ended result => some result
  | _ => none

end Upload

end Outbox
