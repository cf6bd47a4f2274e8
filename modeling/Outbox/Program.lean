import Outbox.CommandLine
import Outbox.Log.Filter
import Outbox.Service

/-!
The program: from its arguments and its input to what it prints, its exit code and its log.
-/

set_option autoImplicit false

namespace Outbox

inductive Ending where
  | finished
  | answered (text : String)
  /-- The arguments are not understood. -/
  | misused
  | failed (chain : List String)
  /-- A setting is beyond what the program can work with at all. -/
  | crashed
  deriving DecidableEq, Repr

namespace Ending

def code : Ending → Nat
  | .finished | .answered _ => 0
  | .failed _ => 1
  | .misused => 2
  | .crashed => 101

/-- What is printed on standard output. -/
def output : Ending → String
  | .answered text => text
  | _ => ""

/-- The causes of a failure, one to a line, with numbers if there are several. -/
def causes : List String → String
  | [] => ""
  | [cause] => "\n\nCaused by:\n    " ++ cause
  | several => "\n\nCaused by:" ++ String.join (several.mapIdx fun i cause =>
      "\n    " ++ toString i ++ ": " ++ cause)

/-- What is printed on standard error. -/
def complaint : Ending → String
  | .failed [] => "Error\n"
  | .failed (first :: rest) => "Error: " ++ first ++ causes rest ++ "\n"
  | .misused => "error: the arguments are not understood\n\nUsage: spool [OPTIONS]\n"
  | .finished | .answered _ | .crashed => ""

def ofFailure (e : ServiceError) : Ending :=
  if e.isCrash then .crashed else .failed e.chain

def ofConfigError (config : Path) (e : ConfigError) : Ending :=
  if e = .beyondLongest then .crashed else .failed (("failed to load " ++ config.text) :: e.chain)

def ofOutcome : Except ServiceError Report → Ending
  | .ok _ => .finished
  | .error e => ofFailure e

end Ending

/-- The log of a run: what passes, and how and where it is written. -/
structure Logging where
  filter : LogFilter
  format : LogFormat
  output : LogOutput
  deriving DecidableEq, Repr

def Logging.select (l : Logging) (events : List Event) : List Event :=
  events.filter l.filter.passes

/-- A program that serves: its log, and its service unless that has failed to start. -/
structure Program where
  logging : Logging
  service : Except ServiceError Service

namespace Program

/-- Sets the log up. A file for it is made if there is none. -/
def setUpLog (c : LogConfig) (text : Option Text) (w : World) : Except Ending Logging × World :=
  match LogFilter.ofText? (text.getD c.filter) with
  | none => (.error .crashed, w)
  | some filter =>
    let logging : Logging := { filter, format := c.format, output := c.output }
    match c.output with
    | .standardError => (.ok logging, w)
    | .file path =>
      match w.attempt (Disk.openAppend path) with
      | (.ok _, w) => (.ok logging, w)
      | (.error cause, w) =>
        (.error (.failed ["failed to open log file " ++ path.text, cause.message]), w)

/-- Starts the program with the configuration of a file, or tells how it ends without. -/
def start (config : Path) (logFilter : Option Text) (w : World) :
    Except Ending Program × World :=
  match Config.ofFile config w.disk with
  | .error e => (.error (.ofConfigError config e), w)
  | .ok c =>
    match setUpLog c.log logFilter w with
    | (.error ending, w) => (.error ending, w)
    | (.ok logging, w) =>
      match Service.start c w with
      | (service, w) => (.ok { logging, service }, w)

/-- Lets the service do something, if it has started. -/
def drive (p : Program) (act : Service → World → Service × World) (w : World) : Program × World :=
  match p.service with
  | .ok s =>
    match act s w with
    | (s, w) => ({ p with service := .ok s }, w)
  | .error _ => (p, w)

def ending? (p : Program) : Option Ending :=
  match p.service with
  | .ok s => s.outcome.map Ending.ofOutcome
  | .error e => some (.ofFailure e)

/-- A run with all of its input at hand: how it ends, and its log if that was set up. -/
def run (arguments : List Text) (input : Bytes) (w : World) : Ending × Option Logging × World :=
  match Invocation.ofArguments? arguments with
  | none => (.misused, none, w)
  | some .showHelp => (.answered Invocation.helpText, none, w)
  | some .showVersion => (.answered Invocation.versionText, none, w)
  | some (.serve config logFilter) =>
    match start config logFilter w with
    | (.error ending, w) => (ending, none, w)
    | (.ok p, w) =>
      match p.drive (·.feed input) w with
      | (p, w) =>
        match p.drive Service.endInput w with
        | (p, w) => (p.ending?.getD .finished, some p.logging, w)

end Program

end Outbox
