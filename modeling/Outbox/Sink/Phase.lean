import Outbox.Sink.Loop

/-!
Who has a sink: it is called by hand until its loop takes it over or it is dropped. A trigger for
flushes works on it wherever it is, and says no once there is nobody left to take the request.
-/

set_option autoImplicit false

namespace Outbox

/-- A sink and who has it. -/
inductive SinkPhase where
  /-- The sink is called by hand. -/
  | idle (s : Sink)
  | looping (l : Loop)
  | dropped (s : Sink)
  deriving Repr

namespace SinkPhase

def sink : SinkPhase → Sink
  | idle s | dropped s => s
  | looping l => l.sink

def withSink (s : Sink) : SinkPhase → SinkPhase
  | idle _ => idle s
  | looping l => looping { l with sink := s }
  | dropped _ => dropped s

/-- Whether there is anybody left who takes in flush requests. -/
def isOpen : SinkPhase → Bool
  | idle _ => true
  | looping l => l.isRunning
  | dropped _ => false

def requestFlush : SinkPhase → Bool × SinkPhase
  | idle s => (s.requestFlush.1, idle s.requestFlush.2)
  | looping l => (l.requestFlush.1, looping l.requestFlush.2)
  | dropped s => (false, dropped s)

def settle (phase : SinkPhase) (w : World) : SinkPhase × World :=
  match phase with
  | looping l => (looping (l.settle w).1, (l.settle w).2)
  | phase => (phase.withSink (phase.sink.advanceUploads w).1, (phase.sink.advanceUploads w).2)

end SinkPhase

end Outbox
