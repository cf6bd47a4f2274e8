import Outbox.Config.Decode
import Outbox.World

/-!
Configurations that can be worked with: a connection is given, the live file has a plain name, and
no size, interval or limit is zero.
-/

set_option autoImplicit false

namespace Outbox.Config

/-- Whether a name can be that of the live file: no path, and not hidden. -/
def isPlainName (name : Name) : Bool :=
  name ≠ [] && !name.contains '/' && name.head? ≠ some '.'

def isBlankText (text : Text) : Bool :=
  Text.strip text = []

/-- The first objection to a configuration, if there is one. -/
def objection? (c : Config) : Option ConfigError :=
  let s := c.bundle.settings
  if isBlankText s.connection then some (.missing "bundle" "connection")
  else if !isPlainName s.baseName then
    some (.invalid "bundle" "base_name" (.notPlainName s.baseName))
  else if s.maxFileSize = 0 then some (.invalid "bundle" "max_file_size" .zero)
  else if s.tickInterval = 0 then some (.invalid "bundle" "tick_interval" .zero)
  else if s.rollInterval = 0 then some (.invalid "bundle" "roll_over_interval" .zero)
  else if s.maxInFlight = some 0 then some (.invalid "bundle" "max_in_flight" .zeroLimit)
  else if c.bundle.queueSize = 0 then some (.invalid "bundle" "queue_size" .zero)
  else if c.bundle.metricsEnabled && c.bundle.metricsInterval = 0 then
    some (.invalid "bundle" "metrics_interval" .zeroWithMetrics)
  else
    match c.bundle.backend with
    | .objectStore url => if isBlankText url then some (.missing "bundle.backend" "url") else none
    | .archive => none

def ofText (text : Text) : Except ConfigError Config :=
  match Toml.ofText text with
  | none => .error .malformed
  | some entries => do
    let c ← ofDocument entries
    match c.objection? with
    | some e => .error e
    | none => .ok c

/-- The content of a file as text. -/
def readText (path : Path) (d : Disk) : Except IoError Text :=
  match Disk.readFile path d with
  | .error e => .error e
  | .ok (bytes, _) => (Utf8.decode bytes).mapError fun _ => .notText

def ofFile (path : Path) (d : Disk) : Except ConfigError Config :=
  match readText path d with
  | .error e => .error (.unreadable path e)
  | .ok text => ofText text

end Outbox.Config
