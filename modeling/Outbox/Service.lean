import Outbox.Config.Validate
import Outbox.Reader
import Outbox.Sink.Loop
import Outbox.Sink.Start

/-!
The service: a sink that is fed with the lines of an input, until the input ends, a shutdown is
requested, or the sink has to stop.
-/

set_option autoImplicit false

namespace Outbox

/-- Why the service fails. -/
inductive ServiceError where
  | badStore (url : Text) (cause : UploadError)
  | notStarted (cause : SinkError)
  | noQueue (length : Nat)
  | tickTooLate
  | sinkCrashed
  | stopped (cause : SinkError)
  | inputFailed (cause : IoError)
  deriving DecidableEq, Repr

namespace ServiceError

def chain : ServiceError → List String
  | .badStore url cause => ("invalid object store url '" ++ String.ofList url ++ "'") :: cause.chain
  | .notStarted cause => "failed to initialize bundle sink" :: cause.chain
  | .noQueue length =>
    [if length = 0 then "mpsc bounded channel requires buffer > 0"
      else "a semaphore may not have more than MAX_PERMITS permits"]
  | .tickTooLate => ["bundle sink task failed", "overflow when adding duration to instant"]
  | .sinkCrashed => ["bundle sink task failed"]
  | .stopped cause => "bundle sink stopped" :: cause.chain
  | .inputFailed cause => ["failed to read records from input", cause.message]

/-- Whether a failure is one that nothing can be done about. -/
def isCrash : ServiceError → Bool
  | .noQueue _ => true
  | .notStarted cause => cause.isCrash
  | _ => false

end ServiceError

/-- The destination of a configuration, before it is set up. -/
def BackendChoice.destination : BackendChoice → Except ServiceError Destination
  | .archive => .ok (.archive .unset)
  | .objectStore url =>
    match ObjectStore.ofUrlText url with
    | .ok store => .ok (.store store)
    | .error e => .error (.badStore url e)

structure Service where
  config : Config
  loop : Loop
  reader : Reader
  /-- The running time of the next report of the counters, if they are reported. -/
  nextReport : Option Nat
  shutdown : Bool
  /-- What the service has come to: the last counters, or why it failed. -/
  outcome : Option (Except ServiceError Report)

namespace Service

/-- The seconds of running time that can be told. -/
def maxSeconds : Nat := 9223372036854775807

/-- Whether a point in running time can be told. -/
def isTellable (nanos : Nat) : Bool :=
  nanos / Duration.second ≤ maxSeconds

/-- The first of the times that follow each other at an interval. There is none without time between
them, or if it cannot be told. -/
def firstTime? (now interval : Nat) : Option Nat :=
  if interval = 0 || !isTellable (now + interval) then none else some (now + interval)

/-- The service with a sink that has started. -/
def ofSink (config : Config) (sink : Sink) (w : World) : Except ServiceError Service × World :=
  let w := w.tell (.serviceReady sink.display sink.bufferDir config.bundle.backend.kind)
  if !Channel.isCapacity config.bundle.queueSize then
    (.error (.noQueue config.bundle.queueSize), w)
  else if !isTellable (w.now + config.bundle.settings.tickInterval) then (.error .tickTooLate, w)
  else
    match Loop.start sink config.bundle.queueSize w with
    | (loop, w) =>
      (.ok
        { config, loop, reader := .start
          nextReport :=
            if config.bundle.metricsEnabled then firstTime? w.now config.bundle.metricsInterval
            else none
          shutdown := false
          outcome := none },
        w)

def start (config : Config) (w : World) : Except ServiceError Service × World :=
  match config.bundle.backend.destination with
  | .error e => (.error e, w)
  | .ok destination =>
    match Sink.start config.bundle.settings (some destination) w with
    | (.error e, w) => (.error (.notStarted e), w)
    | (.ok sink, w) => ofSink config sink w

def hasEnded (s : Service) : Bool :=
  s.outcome.isSome

/-- Records go from the reader to the sink until the reader waits for input or has finished, in at
most a number of rounds. -/
def pump : Nat → Service → World → Service × World
  | 0, s, w => (s, w)
  | rounds + 1, s, w =>
    match s.reader.run s.loop.records with
    | (reader, records) =>
      let s := { s with reader, loop := { s.loop with records } }
      if s.loop.isRunning && records.queue ≠ [] then
        match Loop.receiveAll records.queue.length s.loop w with
        | (loop, w) => pump rounds { s with loop } w
      else (s, w)

/-- What the service has come to when its sink has stopped. A fatal error counts only if it came
before a shutdown was requested. -/
def outcomeOf (s : Service) (final : Report) : Except ServiceError Report :=
  match s.loop.fatal, s.shutdown with
  | some cause, false => .error (.stopped cause)
  | _, _ =>
    match s.reader.result with
    | some (.error cause) => .error (.inputFailed cause)
    | _ => .ok final

/-- Ends the service when its sink has stopped. -/
def conclude (s : Service) (w : World) : Service × World :=
  match s.outcome, s.loop.crashed, s.loop.final with
  | none, true, _ =>
    ({ s with reader := s.reader.cancel, outcome := some (.error .sinkCrashed) }, w)
  | none, false, some final =>
    let s := { s with reader := s.reader.cancel }
    let outcome := s.outcomeOf final
    let w := w.tell (.finalStatistics (String.ofList final.json))
    ({ s with outcome := some outcome },
      match outcome with
      | .ok _ => w.tell (.inputFinished s.reader.forwarded)
      | .error _ => w)
  | _, _, _ => (s, w)

/-- Lets everything happen that needs no time. -/
def settle (s : Service) (w : World) : Service × World :=
  match pump (s.reader.ready.length + 1) s w with
  | (s, w) =>
    match s.loop.settle w with
    | (loop, w) => { s with loop }.conclude w

def feed (s : Service) (bytes : Bytes) (w : World) : Service × World :=
  if s.hasEnded then (s, w) else { s with reader := s.reader.feed bytes }.settle w

def endInput (s : Service) (w : World) : Service × World :=
  if s.hasEnded then (s, w) else { s with reader := s.reader.finish }.settle w

def failInput (s : Service) (cause : IoError) (w : World) : Service × World :=
  if s.hasEnded then (s, w) else { s with reader := s.reader.fail cause }.settle w

def requestFlush (s : Service) (w : World) : Service × World :=
  if s.hasEnded then (s, w)
  else
    match s.loop.requestFlush with
    | (accepted, loop) => { s with loop }.settle (if accepted then w.tell .flushSignal else w)

/-- A shutdown is requested from outside: the reader stops, and the sink writes out what has been
queued. -/
def requestShutdown (s : Service) (w : World) : Service × World :=
  if s.hasEnded then (s, w)
  else
    { s with
      shutdown := true
      reader := s.reader.cancel
      loop := { s.loop with cancelled := true } }.settle (w.tell .shutdownRequested)

def tellCounters (s : Service) (w : World) : World :=
  w.tell (.statistics (String.ofList s.loop.sink.report.json))

/-- Lets time pass until a point, report by report, with at most `reports` of them. -/
def passTo (target : Nat) : Nat → Service → World → Service × World
  | 0, s, w =>
    match s.loop.pass (target - w.now) w with
    | (loop, w) => { s with loop }.conclude w
  | reports + 1, s, w =>
    match s.nextReport with
    | some due =>
      if s.loop.isRunning && due ≤ target then
        match s.loop.pass (due - w.now) w with
        | (loop, w) =>
          let s := { s with loop, nextReport := some (due + s.config.bundle.metricsInterval) }
          passTo target reports s (if s.loop.isRunning then s.tellCounters w else w)
      else passTo target 0 s w
    | none => passTo target 0 s w

def pass (s : Service) (nanos : Nat) (w : World) : Service × World :=
  let target := w.now + nanos
  let reports :=
    match s.nextReport with
    | some due => (target - due) / s.config.bundle.metricsInterval + 1
    | none => 0
  passTo target reports s w

end Service

end Outbox
