import Outbox.Event
import Outbox.Sink.Settings
import Outbox.Text.Blank

/-!
A configuration: how the program logs, and how its sink works.
-/

set_option autoImplicit false

namespace Outbox

inductive LogFormat where
  | console
  | json
  deriving DecidableEq, Repr

inductive LogOutput where
  | standardError
  | file (path : Path)
  deriving DecidableEq, Repr

structure LogConfig where
  level : Level
  format : LogFormat
  output : LogOutput
  /-- More directives for the filter, behind the level. -/
  directives : Option Text
  deriving DecidableEq, Repr

namespace LogConfig

def default : LogConfig :=
  { level := .info, format := .console, output := .standardError, directives := none }

def levelName (level : Level) : Text :=
  level.label.toList.map Char.toLower

/-- The text of the log filter: the level, and directives that are not blank behind a comma. -/
def filter (c : LogConfig) : Text :=
  let extra := Text.strip (c.directives.getD [])
  if extra = [] then levelName c.level else levelName c.level ++ ',' :: extra

end LogConfig

/-- Where rolled files go. -/
inductive BackendChoice where
  | archive
  | objectStore (url : Text)
  deriving DecidableEq, Repr

/-- The name of a choice in a configuration. -/
def BackendChoice.kind : BackendChoice → String
  | .archive => "local_mirror"
  | .objectStore _ => "object_store"

/-- How the sink works, and what feeds it. -/
structure BundleConfig where
  settings : Settings
  /-- The most records between the reader and the sink. -/
  queueSize : Nat
  metricsEnabled : Bool
  /-- The time between two reports of the counters, in nanoseconds. -/
  metricsInterval : Nat
  backend : BackendChoice
  deriving DecidableEq, Repr

def BundleConfig.default : BundleConfig :=
  { settings := .default, queueSize := 10000, metricsEnabled := true
    metricsInterval := 60 * Duration.second, backend := .archive }

structure Config where
  log : LogConfig
  bundle : BundleConfig
  deriving DecidableEq, Repr

def Config.default : Config :=
  { log := .default, bundle := .default }

end Outbox
