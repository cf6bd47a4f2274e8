import Outbox.Leftovers
import Outbox.Sink.Basic

/-!
Starting a sink: the destination is set up, the buffer directory is made and tried, the live file
is opened, and rolled files that an earlier run has left are queued.
-/

set_option autoImplicit false

namespace Outbox.Sink

/-- The file that is written and removed to try a directory. -/
def writeCheckName : Name :=
  ".spool-write-check".toList

/-- Makes the buffer directory and tries whether files can be written in it. -/
def prepareBuffer (dir : Path) (w : World) : Except SinkError Unit × World :=
  match w.disk.mkdirs dir with
  | (.error e, disk) => (.error (.bufferDir dir e), { w with disk })
  | (.ok (), disk) =>
    let w := { w with disk }
    let check := dir.join writeCheckName
    match w.attempt (Disk.writeFile check []) with
    | (.error e, w) => (.error (.bufferDir dir e), w)
    | (.ok (), w) =>
      match w.attempt (Disk.remove check) with
      | (.error e, w) => (.ok (), w.tell (.writeCheckKept check e))
      | (.ok (), w) => (.ok (), w)

/-- Queues the rolled files in the buffer directory. If they cannot be listed this is told, and
the sink starts without them. -/
def queueLeftovers (s : Sink) (w : World) : Sink × World :=
  match w.attempt (Leftovers.scan s.bufferDir s.settings.baseName) with
  | (.error e, w) => (s, w.tell (.leftoversUnknown s.bufferDir e))
  | (.ok found, w) =>
    ({ s with pending := s.pending ++ found }.publish,
      if found = [] then w else w.tell (.leftoversFound s.bufferDir found.length))

/-- Refuses a destination that writes into the buffer directory. -/
def checkApart (destination : Destination) (bufferDir : Path) (w : World) :
    Except SinkError Unit :=
  match destination.localDirectory with
  | some directory =>
    if w.disk.sameDir directory bufferDir then .error (.start (.sameDirectory directory))
    else .ok ()
  | none => .ok ()

/-- The live file and the queue of a sink whose destination and buffer directory are ready. -/
def openLive (settings : Settings) (bufferDir : Path) (destination : Destination) (w : World) :
    Except SinkError Sink × World :=
  let livePath := bufferDir.join settings.baseName
  match LiveFile.openAt livePath w with
  | (.error e, w) => (.error (.start (.liveFileNotOpened livePath e)), w)
  | (.ok live, w) =>
    match (ofParts settings bufferDir destination live).queueLeftovers w with
    | (s, w) =>
      (.ok s,
        w.tell (.sinkReady s.display settings.maxFileSize
          (String.ofList (Duration.text settings.rollInterval)) s.pending.length))

def start (settings : Settings) (destination : Option Destination) (w : World) :
    Except SinkError Sink × World :=
  let connection := Connection.ofText settings.connection
  let bufferDir := connection.localDir.getD Settings.defaultBufferDir
  match destination with
  | none => (.error (.start .noDestination), w)
  | some destination =>
    match destination.configure connection w with
    | (.error e, _, w) => (.error (.destination e), w)
    | (.ok (), destination, w) =>
      match prepareBuffer bufferDir w with
      | (.error e, w) => (.error e, w)
      | (.ok (), w) =>
        match checkApart destination bufferDir w with
        | .error e => (.error e, w)
        | .ok () => openLive settings bufferDir destination w

end Outbox.Sink
