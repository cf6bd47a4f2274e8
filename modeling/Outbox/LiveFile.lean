import Outbox.World

/-!
The live file: records are appended to one file of a fixed name, and rolling it over gives what it
holds another name, the live file's name with a time stamp, and starts an empty file in its place.
-/

set_option autoImplicit false

namespace Outbox

/-- What a live file counts since it was opened. -/
structure LiveFileCounters where
  name : Name
  bytes : Nat
  records : Nat
  rollovers : Nat
  size : Nat
  /-- The wall clock at the last rollover, or at opening. -/
  lastRolled : Timestamp
  deriving DecidableEq, Repr

structure LiveFile where
  path : Path
  /-- The open file; none once the live file is closed. -/
  handle : Option Handle
  size : Nat
  /-- The running time at the last rollover, or at opening, in nanoseconds. -/
  rolledAt : Nat
  counters : LiveFileCounters
  deriving DecidableEq, Repr

namespace LiveFile

/-- The time stamp of rolled files: to the second, and in the order of time. -/
def stampPattern : Text :=
  "%Y-%m-%dT%H:%M:%S".toList

/-- Opens a live file, making it if there is none; what it holds is kept. -/
def openAt (path : Path) (w : World) : Except IoError LiveFile × World :=
  match path.fileName? with
  | none => (.error (.noFileName path), w)
  | some name =>
    match w.attempt (Disk.openAppend path) with
    | (.error e, w) => (.error e, w)
    | (.ok handle, w) =>
      match w.attempt (Disk.length handle) with
      | (.error e, w) => (.error e, w)
      | (.ok size, w) =>
        let w := if 0 < size then w.tell (.reopened path size) else w
        let file : LiveFile :=
          { path, handle := some handle, size, rolledAt := w.now
            counters := { name, bytes := 0, records := 0, rollovers := 0, size
                          lastRolled := w.wall } }
        (if w.wall.isReadable then .ok file else .error .noTime, w)

def append (file : LiveFile) (record : Bytes) (w : World) :
    Except IoError Unit × LiveFile × World :=
  match file.handle with
  | none => (.error .closed, file, w)
  | some handle =>
    match w.attempt (Disk.write handle record) with
    | (.error e, w) => (.error e, file, w)
    | (.ok (), w) =>
      let c := file.counters
      (.ok (),
        { file with
          size := file.size + record.length
          counters := { c with
            bytes := c.bytes + record.length
            records := c.records + 1
            size := c.size + record.length } },
        w)

/-- The first free name from `base.n` on, looked for among `tries` names. -/
def numberedName (d : Disk) (path : Path) (base : Name) : Nat → Nat → Path
  | 0, n => path.withFileName (base ++ '.' :: Digits.decimal n)
  | tries + 1, n =>
    let candidate := path.withFileName (base ++ '.' :: Digits.decimal n)
    if d.exists? candidate then numberedName d path base tries (n + 1) else candidate

/-- A name that is free: `base`, or `base.n` with the least number from 1 on. There are no more
names to pass over than there are entries on the disk. -/
def freeName (d : Disk) (path : Path) (base : Name) : Path :=
  let candidate := path.withFileName base
  if d.exists? candidate then numberedName d path base d.nodes.length 1 else candidate

def rolledName (file : LiveFile) (pattern : Text) (w : World) : Except IoError Path :=
  if !w.wall.isReadable then .error .noTime
  else
    match w.wall.format? pattern with
    | none => .error (.badPattern pattern)
    | some stamp => .ok (freeName w.disk file.path (file.counters.name ++ '.' :: stamp))

/-- Opens the live file again after its name has been given up, or could not be. -/
def reopen (file : LiveFile) (w : World) : Except IoError Unit × LiveFile × World :=
  match w.attempt (Disk.openAppend file.path) with
  | (.error e, w) => (.error e, { file with handle := none }, w)
  | (.ok handle, w) => (.ok (), { file with handle := some handle }, w)

/-- The live file after a rollover: empty, and counted. -/
def rolled (file : LiveFile) (w : World) : LiveFile :=
  { file with
    size := 0
    rolledAt := w.now
    counters := { file.counters with
      rollovers := file.counters.rollovers + 1
      size := 0
      lastRolled := w.wall } }

/-- Brings an open file to stable storage; a failure is told and has no other effect. -/
def settle (handle : Handle) (failed : IoError → Event) (w : World) : World :=
  match w.attempt (Disk.sync handle) with
  | (.error e, w) => w.tell (failed e)
  | (.ok (), w) => w

/-- Gives what the live file holds the stamped name and starts an empty live file; the path of
the rolled file. When the name cannot be given the same live file is opened again. A live file
that cannot be opened again stays closed. -/
def rollOver (file : LiveFile) (pattern : Text) (w : World) :
    Except IoError Path × LiveFile × World :=
  match file.handle with
  | none => (.error .closed, file, w)
  | some handle =>
    match file.rolledName pattern w with
    | .error e => (.error e, file, w)
    | .ok target =>
      let w := settle handle (.syncBeforeRolloverFailed file.path) w
      match w.attempt (Disk.rename file.path target) with
      | (.error e, w) =>
        match file.reopen w with
        | (.error e', file, w) => (.error e', file, w)
        | (.ok (), file, w) => (.error e, file, w)
      | (.ok (), w) =>
        match file.reopen w with
        | (.error e, file, w) => (.error e, file, w)
        | (.ok (), file, w) => (.ok target, file.rolled w, w)

/-- Closes a live file: nothing more is appended to it. -/
def close (file : LiveFile) (w : World) : LiveFile × World :=
  match file.handle with
  | none => (file, w)
  | some handle =>
    ({ file with handle := none }, settle handle (.syncOnCloseFailed file.path) w)

/-- The time since the last rollover, or since opening, in nanoseconds. -/
def age (file : LiveFile) (w : World) : Nat :=
  w.now - file.rolledAt

end LiveFile

def LiveFileCounters.report (c : LiveFileCounters) : Report :=
  .record
    [("file_name", .text (String.ofList c.name)), ("bytes_written", .number c.bytes),
      ("messages_written", .number c.records), ("rollovers", .number c.rollovers),
      ("live_file_size", .number c.size),
      ("last_rolled_over", .text (String.ofList c.lastRolled.text))]

end Outbox
