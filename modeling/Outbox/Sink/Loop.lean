import Outbox.Channel
import Outbox.Sink.Basic

/-!
The loop of a sink: it takes in records, ticks, flush requests and outcomes of uploads, one at a
time, until it is cancelled, no more records can come, or the disk fails. What is ready may be
taken in any order; `settle` takes one order and goes on until nothing more is ready.
-/

set_option autoImplicit false

namespace Outbox

structure Loop where
  sink : Sink
  records : Channel
  cancelled : Bool
  /-- The running time of the next tick, in nanoseconds. -/
  nextTick : Nat
  /-- Whether anyone hears of a fatal error. -/
  errorHeard : Bool
  /-- The fatal error that was heard of. -/
  fatal : Option SinkError
  final : Option Report
  /-- Whether the loop has broken off for what nothing can be done about. -/
  crashed : Bool
  deriving Repr

namespace Loop

/-- Breaks the loop off: nothing more is taken in, and nothing is told. -/
def crash (l : Loop) : Loop :=
  let live := { l.sink.live with handle := none }
  { l with sink := { l.sink with live, flushWaiting := false }
           records := l.records.drop, crashed := true }

/-- A loop that starts now, the first tick being one interval away. There is no loop without time
between its ticks. -/
def start (sink : Sink) (capacity : Nat) (w : World) : Loop × World :=
  let l : Loop :=
    { sink, records := .ofCapacity capacity, cancelled := false
      nextTick := w.now + sink.settings.tickInterval, errorHeard := true, fatal := none
      final := none, crashed := false }
  if sink.settings.tickInterval = 0 then (l.crash, w)
  else (l, w.tell (.loopStarted sink.display))

def isRunning (l : Loop) : Bool :=
  l.final.isNone && !l.crashed

/-- Stops the loop: the live file is closed and the counters are read for the last time. -/
def stop (l : Loop) (w : World) : Loop × World :=
  match l.sink.live.close w with
  | (live, w) =>
    let sink := { l.sink with live, flushWaiting := false }
    ({ l with sink, records := l.records.drop, final := some sink.report },
      w.tell (.loopStopped sink.display sink.counters.uploaded sink.counters.errors
        sink.counters.pending sink.counters.inFlight))

/-- Stops the loop on an error of the disk, which is handed to whoever hears of it. -/
def fail (l : Loop) (e : SinkError) (w : World) : Loop × World :=
  if e.isCrash then (l.crash, w)
  else
    let w := w.tell (.fatal l.sink.display e.message)
    if l.errorHeard then { l with fatal := some e }.stop w else l.stop (w.tell .fatalUnheard)

/-- Takes the result of one step of the sink into the loop. -/
def follow {α : Type} (l : Loop) (step : Except SinkError α × Sink × World) : Loop × World :=
  match step with
  | (.ok _, sink, w) => ({ l with sink }, w)
  | (.error e, sink, w) => { l with sink }.fail e w

def receive (l : Loop) (w : World) : Loop × World :=
  match l.records.take? with
  | none => (l, w)
  | some (record, records) => { l with records }.follow (l.sink.output record w)

/-- Takes in at most a number of records, until the loop has stopped. -/
def receiveAll : Nat → Loop → World → Loop × World
  | 0, l, w => (l, w)
  | n + 1, l, w =>
    if l.isRunning then
      match l.receive w with
      | (l, w) => receiveAll n l w
    else (l, w)

/-- Stops the loop because no more records can come. -/
def endOfRecords (l : Loop) (w : World) : Loop × World :=
  l.stop (w.tell (.recordsEnded l.sink.display))

/-- Takes in a flush request: the live file is rolled over. -/
def flush (l : Loop) (w : World) : Loop × World :=
  let sink := { l.sink with flushWaiting := false }
  { l with sink }.follow (sink.rollOver (w.tell (.flushRequested sink.destination.describe)))

/-- Takes in a tick; the next one is one interval later. -/
def tick (l : Loop) (w : World) : Loop × World :=
  { l with nextTick := l.nextTick + l.sink.settings.tickInterval }.follow (l.sink.tick w)

/-- Takes in the first outcome that has come. The time of a failure has to be read. -/
def takeOutcome (l : Loop) (w : World) : Loop × World :=
  match l.sink.outcomes with
  | [] => (l, w)
  | outcome :: rest =>
    let sink := { l.sink with outcomes := rest }
    match outcome.result, w.wall.isReadable with
    | .error e, false => ({ l with sink := sink.countError e }.crash, w)
    | _, _ =>
      match sink.settleOutcome outcome w with
      | (sink, w) => ({ l with sink }, w)

def takeOutcomes (l : Loop) (w : World) : Loop × World :=
  (List.range l.sink.outcomes.length).foldl
    (fun state _ => if state.1.isRunning then state.1.takeOutcome state.2 else state) (l, w)

/-- Writes records out one after the other; how many were written before one failed. -/
def writeAll : List Bytes → Nat → Sink → World → Except SinkError Nat × Sink × World
  | [], n, s, w => (.ok n, s, w)
  | record :: rest, n, s, w =>
    match s.output record w with
    | (.error e, s, w) => (.error e, s, w)
    | (.ok (), s, w) => writeAll rest (n + 1) s w

/-- Stops a cancelled loop: the records that are queued are written out, and no others are
taken. -/
def drain (l : Loop) (w : World) : Loop × World :=
  match writeAll l.records.queue 0 l.sink (w.tell (.cancelled l.sink.display)) with
  | (.error e, sink, w) => { l with sink, records := l.records.drop }.fail e w
  | (.ok n, sink, w) =>
    let l := { l with sink, records := l.records.drop }
    l.stop (if n = 0 then w else w.tell (.drained sink.display n))

/-- Takes in what is ready of cancellation, records, their end, and flush requests. -/
def settleInputs (l : Loop) (w : World) : Loop × World :=
  if !l.isRunning then (l, w)
  else if l.cancelled then l.drain w
  else
    match receiveAll l.records.queue.length l w with
    | (l, w) =>
      if !l.isRunning then (l, w)
      else if l.records.finished then l.endOfRecords w
      else if l.sink.flushWaiting then l.flush w
      else (l, w)

/-- Lets everything happen that needs no time: inputs are taken in, uploads go on until they end
or wait, and their outcomes are taken in as long as the loop runs. -/
def settle (l : Loop) (w : World) : Loop × World :=
  match l.settleInputs w with
  | (l, w) =>
    match l.sink.advanceUploads w with
    | (sink, w) =>
      let l := { l with sink }
      if l.isRunning then l.takeOutcomes w else (l, w)

/-- The time at which a timer that is due goes off: timers go off at whole milliseconds. -/
def firingTime (due : Nat) : Nat :=
  (due + Duration.millisecond - 1) / Duration.millisecond * Duration.millisecond

/-- Lets time pass until a point, tick by tick, with at most `ticks` of them. -/
def passTo (target : Nat) : Nat → Loop → World → Loop × World
  | 0, l, w => (l, { w with now := target })
  | ticks + 1, l, w =>
    if l.isRunning && firingTime l.nextTick ≤ target then
      match l.tick { w with now := max w.now (firingTime l.nextTick) } with
      | (l, w) =>
        match l.settle w with
        | (l, w) => passTo target ticks l w
    else (l, { w with now := target })

def pass (l : Loop) (nanos : Nat) (w : World) : Loop × World :=
  let target := w.now + nanos
  passTo target ((target - l.nextTick) / l.sink.settings.tickInterval + 1) l w

/-- Requests a flush; no when one is waiting or the loop has stopped. -/
def requestFlush (l : Loop) : Bool × Loop :=
  if l.isRunning then
    match l.sink.requestFlush with
    | (accepted, sink) => (accepted, { l with sink })
  else (false, l)

end Loop

end Outbox
