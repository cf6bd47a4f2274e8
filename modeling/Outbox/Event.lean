import Outbox.Disk.Error
import Outbox.Report

/-!
What is told to the log: events, each with a level, a message, named fields, and the part of the
program that it comes from.
-/

set_option autoImplicit false

namespace Outbox

/-- How grave an event is. -/
inductive Level where
  | error
  | warn
  | info
  | debug
  | trace
  deriving DecidableEq, Repr

namespace Level

/-- The levels in order, the gravest first, from 1. -/
def rank : Level → Nat
  | .error => 1
  | .warn => 2
  | .info => 3
  | .debug => 4
  | .trace => 5

def label : Level → String
  | .error => "ERROR"
  | .warn => "WARN"
  | .info => "INFO"
  | .debug => "DEBUG"
  | .trace => "TRACE"

end Level

/-- The parts of the program that tell events. -/
inductive Source where
  | liveFile
  | failureLog
  | upload
  | sink
  | service
  deriving DecidableEq, Repr

/-- The name of a part, by which log directives select it. -/
def Source.target : Source → String
  | .liveFile => "spool_sinks::util::rolling_file"
  | .failureLog => "spool_sinks::util::rate_limited_logger"
  | .upload => "spool_sinks::bundle::dispatch"
  | .sink => "spool_sinks::bundle"
  | .service => "spool::run"

inductive Event where
  /-- A live file that an earlier run left is taken up again. -/
  | reopened (path : Path) (bytes : Nat)
  | syncBeforeRolloverFailed (path : Path) (cause : IoError)
  | syncOnCloseFailed (path : Path) (cause : IoError)
  /-- A failure, told with the number of failures so far and of those kept back since the last
  one told. -/
  | failure (message : String) (path : Path) (cause : String) (total suppressed : Nat)
  /-- An uploaded file could not be removed. -/
  | keptAfterUpload (path : Path) (cause : IoError)
  | writeCheckKept (path : Path) (cause : IoError)
  | leftoversFound (dir : Path) (count : Nat)
  | leftoversUnknown (dir : Path) (cause : IoError)
  | sinkReady (sink : String) (maxFileSize : Nat) (rollInterval : String) (pending : Nat)
  | loopStarted (sink : String)
  | flushRequested (destination : String)
  | uploaded (path : Path)
  | cancelled (sink : String)
  | drained (sink : String) (records : Nat)
  | recordsEnded (sink : String)
  | fatal (sink : String) (cause : String)
  | fatalUnheard
  | loopStopped (sink : String) (filesUploaded uploadErrors pending inFlight : Nat)
  | serviceReady (sink : String) (bufferDir : Path) (backend : String)
  | shutdownRequested
  | flushSignal
  | statistics (json : String)
  | finalStatistics (json : String)
  | inputFinished (records : Nat)
  deriving DecidableEq, Repr

namespace Event

def level : Event → Level
  | .syncBeforeRolloverFailed .. | .syncOnCloseFailed .. | .failure .. | .keptAfterUpload ..
  | .writeCheckKept .. | .leftoversUnknown .. | .fatalUnheard => .warn
  | .fatal .. => .error
  | _ => .info

/-- The part of the program that tells an event. -/
def source : Event → Source
  | .reopened .. | .syncBeforeRolloverFailed .. | .syncOnCloseFailed .. => .liveFile
  | .failure .. => .failureLog
  | .keptAfterUpload .. => .upload
  | .serviceReady .. | .shutdownRequested | .flushSignal | .statistics .. | .finalStatistics ..
  | .inputFinished .. => .service
  | _ => .sink

def message : Event → String
  | .reopened .. => "reopened existing live file"
  | .syncBeforeRolloverFailed .. => "sync before rollover failed"
  | .syncOnCloseFailed .. => "sync on close failed"
  | .failure message _ _ _ suppressed =>
    if suppressed = 0 then message else message ++ " (rate-limited)"
  | .keptAfterUpload .. => "failed to remove uploaded file"
  | .writeCheckKept .. => "failed to remove write check file"
  | .leftoversFound .. => "queued files left by a previous run"
  | .leftoversUnknown .. => "could not scan buffer directory for leftover files"
  | .sinkReady .. => "bundle sink initialized"
  | .loopStarted .. => "bundle sink starting"
  | .flushRequested .. => "flush requested, rolling over now"
  | .uploaded .. => "uploaded file"
  | .cancelled .. => "bundle sink cancelled"
  | .drained .. => "persisted queued records before stopping"
  | .recordsEnded .. => "record channel closed"
  | .fatal .. => "bundle sink stopping on fatal error"
  | .fatalUnheard => "error channel closed, fatal error not delivered"
  | .loopStopped .. => "bundle sink stopped"
  | .serviceReady .. => "bundle sink ready"
  | .shutdownRequested => "shutdown signal received"
  | .flushSignal => "SIGHUP: rollover requested"
  | .statistics .. => "bundle statistics"
  | .finalStatistics .. => "final bundle statistics"
  | .inputFinished .. => "input finished"

def fields : Event → List (String × Report)
  | .reopened path bytes => [("path", .text path.text), ("bytes", .number bytes)]
  | .syncBeforeRolloverFailed path cause | .syncOnCloseFailed path cause
  | .keptAfterUpload path cause | .writeCheckKept path cause =>
    [("path", .text path.text), ("error", .text cause.message)]
  | .failure _ path cause total suppressed =>
    [("path", .text path.text), ("error", .text cause)]
      ++ (if suppressed = 0 then [] else [("suppressed", .number suppressed)])
      ++ [("total_failures", .number total)]
  | .leftoversFound dir count => [("dir", .text dir.text), ("count", .number count)]
  | .leftoversUnknown dir cause => [("dir", .text dir.text), ("error", .text cause.message)]
  | .sinkReady sink maxFileSize rollInterval pending =>
    [("sink", .text sink), ("max_file_size", .number maxFileSize),
      ("roll_over_interval", .text rollInterval), ("pending", .number pending)]
  | .loopStarted sink | .cancelled sink | .recordsEnded sink => [("sink", .text sink)]
  | .flushRequested destination => [("backend", .text destination)]
  | .uploaded path => [("path", .text path.text)]
  | .drained sink records => [("sink", .text sink), ("drained", .number records)]
  | .fatal sink cause => [("sink", .text sink), ("error", .text cause)]
  | .fatalUnheard | .shutdownRequested | .flushSignal => []
  | .loopStopped sink filesUploaded uploadErrors pending inFlight =>
    [("sink", .text sink), ("files_uploaded", .number filesUploaded),
      ("upload_errors", .number uploadErrors), ("pending", .number pending),
      ("in_flight", .number inFlight)]
  | .serviceReady sink bufferDir backend =>
    [("sink", .text sink), ("buffer_dir", .text bufferDir.text), ("backend", .text backend)]
  | .statistics json | .finalStatistics json => [("statistics", .text json)]
  | .inputFinished records => [("records", .number records)]

end Event

end Outbox
