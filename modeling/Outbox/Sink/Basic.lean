import Outbox.LiveFile
import Outbox.Upload
import Outbox.Sink.Error
import Outbox.Sink.Settings
import Outbox.Text.Quoted

/-!
A sink: records go to a live file, rolled files go to a destination. A rolled file is uploaded at
once, or waits in a queue while there are as many uploads as allowed; a file whose upload fails
goes to the end of the queue and is tried again.
-/

set_option autoImplicit false

namespace Outbox

/-- What a sink counts, as it is published. -/
structure UploadCounters where
  uploaded : Nat
  errors : Nat
  lastError : String
  lastErrorTime : Option Timestamp
  pending : Nat
  inFlight : Nat
  deriving DecidableEq, Repr

def UploadCounters.zero : UploadCounters :=
  { uploaded := 0, errors := 0, lastError := "", lastErrorTime := none, pending := 0
    inFlight := 0 }

structure Outcome where
  path : Path
  result : Except UploadError Unit
  deriving Repr

structure Sink where
  settings : Settings
  bufferDir : Path
  destination : Destination
  live : LiveFile
  /-- The length of the live file as the rule for rolling over sees it. -/
  fileSize : Nat
  /-- Rolled files that wait for an upload, the next one first. -/
  pending : List Path
  /-- Uploads whose outcome has not been taken in. -/
  inFlight : Nat
  counters : UploadCounters
  flushWaiting : Bool
  failures : FailureLog
  /-- Uploads that have not ended, in the order in which they were started. -/
  uploads : List Upload
  /-- Outcomes that have not been taken in, in the order in which they came. -/
  outcomes : List Outcome
  deriving Repr

namespace Sink

def ofParts (settings : Settings) (bufferDir : Path) (destination : Destination)
    (live : LiveFile) : Sink :=
  { settings, bufferDir, destination, live, fileSize := live.size, pending := [], inFlight := 0
    counters := .zero, flushWaiting := false
    failures := .ofInterval settings.failureLogInterval, uploads := [], outcomes := [] }

/-- The identity of a sink: that of its destination and its buffer directory. -/
def key (s : Sink) : String :=
  s.destination.key ++ ":" ++ s.bufferDir.text

def display (s : Sink) : String :=
  s.destination.describe ++ " " ++ s.key

def atCapacity (s : Sink) : Bool :=
  match s.settings.maxInFlight with
  | some most => most ≤ s.inFlight
  | none => false

/-- Publishes the numbers of waiting files and of uploads. -/
def publish (s : Sink) : Sink :=
  { s with counters := { s.counters with pending := s.pending.length, inFlight := s.inFlight } }

def dispatch (s : Sink) (path : Path) : Sink :=
  { s with inFlight := s.inFlight + 1, uploads := s.uploads ++ [Upload.ofPath path] }.publish

def enqueue (s : Sink) (path : Path) : Sink :=
  { s with pending := s.pending ++ [path] }.publish

/-- Rolls the live file over; the rolled file is uploaded, or waits if there are as many uploads
as allowed. -/
def rollOver (s : Sink) (w : World) : Except SinkError Path × Sink × World :=
  match s.live.rollOver LiveFile.stampPattern w with
  | (.error e, live, w) => (.error (.rollOver e), { s with live }, w)
  | (.ok rolled, live, w) =>
    let s := { s with live, fileSize := 0 }
    (.ok rolled, if s.atCapacity then s.enqueue rolled else s.dispatch rolled, w)

/-- Appends a record to the live file. Its length counts for the rule for rolling over even if the
append fails. -/
def append (s : Sink) (record : Bytes) (w : World) : Except SinkError Unit × Sink × World :=
  match s.live.append record w with
  | (.error e, live, w) =>
    (.error (.write e), { s with live, fileSize := s.fileSize + record.length }, w)
  | (.ok (), live, w) => (.ok (), { s with live, fileSize := s.fileSize + record.length }, w)

def overflows (s : Sink) (record : Bytes) : Bool :=
  s.settings.maxFileSize < s.fileSize + record.length

/-- Takes a record: it goes to the live file, which is rolled over first if it would get too
long. -/
def output (s : Sink) (record : Bytes) (w : World) : Except SinkError Unit × Sink × World :=
  if s.overflows record then
    match s.rollOver w with
    | (.error e, s, w) => (.error e, s, w)
    | (.ok _, s, w) => s.append record w
  else s.append record w

/-- Starts the upload of the file that has waited longest, if there may be another upload. -/
def dispatchNext (s : Sink) : Sink :=
  if s.atCapacity then s
  else
    match s.pending with
    | [] => s
    | path :: rest => { s with pending := rest }.dispatch path

def isOverdue (s : Sink) (w : World) : Bool :=
  s.settings.rollInterval < s.live.age w

/-- What is done at every tick: a live file that is too old is rolled over, then one waiting file
is uploaded. -/
def tick (s : Sink) (w : World) : Except SinkError Unit × Sink × World :=
  if s.isOverdue w then
    match s.rollOver w with
    | (.error e, s, w) => (.error e, s, w)
    | (.ok _, s, w) => (.ok (), s.dispatchNext, w)
  else (.ok (), s.dispatchNext, w)

def tellMaybe (event : Option Event) (w : World) : World :=
  match event with
  | some event => w.tell event
  | none => w

def countError (s : Sink) (e : UploadError) : Sink :=
  { s with counters := { s.counters with
      errors := s.counters.errors + 1, lastError := e.message } }

/-- Takes in an outcome: a success is counted, a failure is counted and told, and its file waits
for another try. -/
def settleOutcome (s : Sink) (outcome : Outcome) (w : World) : Sink × World :=
  let s := { s with inFlight := s.inFlight - 1 }
  match outcome.result with
  | .ok () =>
    ({ s with counters := { s.counters with uploaded := s.counters.uploaded + 1 } }.publish,
      w.tell (.uploaded outcome.path))
  | .error e =>
    let (failures, event) :=
      s.failures.record w.now "upload failed, will retry" outcome.path e.message
    let s := s.countError e
    let counters := { s.counters with lastErrorTime := some w.wall }
    ({ s with counters, failures }.enqueue outcome.path, tellMaybe event w)

/-- Requests a flush; no when one is waiting. -/
def requestFlush (s : Sink) : Bool × Sink :=
  (!s.flushWaiting, { s with flushWaiting := true })

def outcomeOf (u : Upload) : Option Outcome :=
  u.result?.map fun result => { path := u.path, result }

/-- Runs uploads one after the other until each has ended or waits; those that wait and the
outcomes of the others. -/
def runUploads : List Upload → Destination → World →
    List Upload × List Outcome × Destination × World
  | [], b, w => ([], [], b, w)
  | u :: rest, b, w =>
    match u.run b w with
    | (u, b, w) =>
      match runUploads rest b w with
      | (waiting, outcomes, b, w) =>
        match outcomeOf u with
        | some outcome => (waiting, outcome :: outcomes, b, w)
        | none => (u :: waiting, outcomes, b, w)

/-- Lets all uploads go on until each has ended or waits. -/
def advanceUploads (s : Sink) (w : World) : Sink × World :=
  match runUploads s.uploads s.destination w with
  | (uploads, outcomes, destination, w) =>
    ({ s with uploads, destination, outcomes := s.outcomes ++ outcomes }, w)

def held (s : Sink) : List Name :=
  (s.uploads.filter Upload.isHeld).map fun u => u.path.fileName?.getD []

/-- The `i`-th of the uploads that wait, and all other uploads. -/
def pickHeld : Nat → List Upload → Option (Upload × List Upload)
  | _, [] => none
  | i, u :: rest =>
    match u.isHeld, i with
    | true, 0 => some (u, rest)
    | true, i + 1 => (pickHeld i rest).map fun picked => (picked.1, u :: picked.2)
    | false, i => (pickHeld i rest).map fun picked => (picked.1, u :: picked.2)

/-- Ends the delivery of the `i`-th of the uploads that wait, by an action; nothing if there is no
such upload. An upload that goes on waiting is then the last of them. -/
def release (s : Sink) (i : Nat) (action : Action) (w : World) : Option (Sink × World) :=
  (pickHeld i s.uploads).map fun picked =>
    match picked.1.release action s.destination w with
    | (released, destination, w) =>
      ({ s with uploads := picked.2 ++ [released], destination }, w)

def report (s : Sink) : Report :=
  .record
    [("files_uploaded", .number s.counters.uploaded), ("upload_errors", .number s.counters.errors),
      ("last_error_time",
        match s.counters.lastErrorTime with
        | some time => .text (String.ofList time.text)
        | none => .absent),
      ("last_error_text", .text s.counters.lastError),
      ("pending_uploads", .number s.counters.pending),
      ("uploads_in_flight", .number s.counters.inFlight),
      ("file_holding_area", s.live.counters.report),
      ("storage_statistics", s.destination.report)]

/-- How the counters of a sink look to people who look for faults: the destination that they
belong to, and no more. -/
def debugText (s : Sink) : String :=
  "BundleStatisticsHandle \x7b backend: "
    ++ String.ofList (Quoted.encode s.destination.key.toList) ++ ", .. \x7d"

end Sink

end Outbox
