import Outbox.Destination.Delivery
import Outbox.Connection
import Outbox.Text.Blank

/-!
An archive: another directory, into which files are copied under their own names. A copy is made
under a name of its own, ending in `.partial`, and renamed when it is complete, so that no reader
of the directory meets half a file under a final name.
-/

set_option autoImplicit false

namespace Outbox

structure Archive where
  directory : Path
  tally : Tally
  deriving DecidableEq, Repr

namespace Archive

def unset : Archive :=
  { directory := ⟨[]⟩, tally := .zero }

/-- Takes the directory that a connection names, and makes it. -/
def configure (a : Archive) (connection : Connection) (w : World) :
    Except UploadError Unit × Archive × World :=
  let directory : Path := ⟨Text.strip connection.rest⟩
  if directory.chars = [] then (.error (.descriptor .noDirectory), a, w)
  else
    match w.disk.mkdirs directory with
    | (.ok (), disk) => (.ok (), { a with directory }, { w with disk })
    | (.error e, disk) => (.error (.io e), a, { w with disk })

/-- The path of a copy that is being made. -/
def partialPath (a : Archive) (name : Name) : Path :=
  a.directory.join (name ++ ".partial".toList)

def finalPath (a : Archive) (name : Name) : Path :=
  a.directory.join name

/-- A delivery that fails. -/
def refuse (a : Archive) (e : UploadError) (w : World) : Turn × Archive × World :=
  (.ended (.error e), { a with tally := a.tally.failed }, w)

/-- Copies what an open file holds to another; the number of bytes. -/
def copyContent (source out : Handle) (w : World) : Except IoError Nat × World :=
  match w.attempt (Disk.read source) with
  | (.error e, w) => (.error e, w)
  | (.ok bytes, w) =>
    match w.attempt (Disk.write out bytes) with
    | (.error e, w) => (.error e, w)
    | (.ok (), w) => (.ok bytes.length, w)

/-- One turn of a delivery. A copy that cannot be completed is removed; one that is complete but
cannot be brought to its name stays. -/
def turn (a : Archive) (path : Path) (source : Handle) (stage : Delivery) (w : World) :
    Turn × Archive × World :=
  match uploadName path with
  | .error e => a.refuse e w
  | .ok name =>
    match stage with
    | .begun =>
      match w.attempt (Disk.create (a.partialPath name)) with
      | (.error e, w) => a.refuse (.io e) w
      | (.ok out, w) => (.next (.copying out), a, w)
    | .copying out =>
      match copyContent source out w with
      | (.error e, w) => a.refuse (.io e) (w.attempt (Disk.remove (a.partialPath name))).2
      | (.ok bytes, w) => (.next (.syncing out bytes), a, w)
    | .syncing out bytes =>
      match w.attempt (Disk.sync out) with
      | (.error e, w) => a.refuse (.io e) w
      | (.ok (), w) => (.next (.naming bytes), a, w)
    | .naming bytes =>
      match w.attempt (Disk.rename (a.partialPath name) (a.finalPath name)) with
      | (.error e, w) => a.refuse (.io e) w
      | (.ok (), w) => (.ended (.ok ()), { a with tally := a.tally.took bytes }, w)
    | .held => (.next .held, a, w)

end Archive

end Outbox
