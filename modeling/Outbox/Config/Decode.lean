import Outbox.Config.Basic
import Outbox.Config.Error
import Outbox.Time.DurationText
import Outbox.Toml.Document

/-!
Configurations from the values of a document. What is left out has its usual value, keys that are
unknown count for nothing, and a value of another kind than its setting is refused. The settings
of a table are taken in as they are written; they may also be given without their names, as an
array in the order below.
-/

set_option autoImplicit false

namespace Outbox.Config

/-- How the value of a setting is taken into a configuration. -/
abbrev Setter (α : Type) := α → Toml → Except ConfigError α

/-- The settings of a table: their names in order, and how each is taken in. -/
abbrev Setters (α : Type) := List (String × Setter α)

/-- The setting that a reader and a field of a configuration make. -/
def setter {α β : Type} (read : Toml → Except ConfigError β) (put : α → β → α) : Setter α :=
  fun config value => (read value).map (put config)

/-- Takes in settings by their names, those written first before the others. -/
def takeNamed {α : Type} (setters : Setters α) (config : α) (entries : List (Text × Toml)) :
    Except ConfigError α :=
  entries.foldlM (fun config entry =>
    match setters.lookup (String.ofList entry.1) with
    | some set => set config entry.2
    | none => .ok config) config

/-- Takes in settings by their places. -/
def takeOrdered {α : Type} (setters : Setters α) (config : α) (items : List Toml) :
    Except ConfigError α :=
  (setters.zip items).foldlM (fun config pair => pair.1.2 config pair.2) config

/-- Takes in the settings that a value holds. A date is a table without any. -/
def takeIn {α : Type} (setters : Setters α) (config : α) : Toml → Except ConfigError α
  | .table entries => takeNamed setters config entries
  | .array items => takeOrdered setters config items
  | .datetime => .ok config
  | _ => .error .malformed

def text : Toml → Except ConfigError Text
  | .string text => .ok text
  | _ => .error .malformed

/-- A number that is not negative. -/
def natural : Toml → Except ConfigError Nat
  | .integer n => if 0 ≤ n then .ok n.toNat else .error .malformed
  | _ => .error .malformed

def boolean : Toml → Except ConfigError Bool
  | .boolean b => .ok b
  | _ => .error .malformed

def duration (v : Toml) : Except ConfigError Nat := do
  match Duration.ofText (← text v) with
  | .ok nanos => return nanos
  | .error .malformed => throw .malformed
  | .error .beyondLongest => throw .beyondLongest

/-- One of several words: as a text, or as the only key of a table with nothing under it. -/
def word {α : Type} (words : List (String × α)) (v : Toml) : Except ConfigError α :=
  let find (name : Text) : Except ConfigError α :=
    match words.find? fun entry => entry.1.toList = name with
    | some entry => .ok entry.2
    | none => .error .malformed
  match v with
  | .string name => find name
  | .table [(name, .table [])] => find name
  | .table [(name, .array [])] => find name
  | _ => .error .malformed

def levels : List (String × Level) :=
  [("trace", .trace), ("debug", .debug), ("info", .info), ("warn", .warn), ("error", .error)]

def formats : List (String × LogFormat) :=
  [("console", .console), ("json", .json)]

/-- Where log lines go: the word `stderr`, or the path of a file. -/
def output (v : Toml) : Except ConfigError LogOutput :=
  (text v).map fun text =>
    if text = "stderr".toList then .standardError else .file ⟨text⟩

def logSetters : Setters LogConfig :=
  [("level", setter (word levels) fun c level => { c with level }),
    ("format", setter (word formats) fun c format => { c with format }),
    ("output", setter output fun c output => { c with output }),
    ("directives", setter text fun c directives => { c with directives := some directives })]

def valueOf? (entries : List (Text × Toml)) (name : String) : Option Toml :=
  (entries.find? fun entry => entry.1 = name.toList).map Prod.snd

/-- Where rolled files go. The kind is named by `type`, or comes first in an array. -/
def backend (v : Toml) : Except ConfigError BackendChoice :=
  let isArchive (kind : Text) : Bool := kind = "local_mirror".toList
  let isStore (kind : Text) : Bool := kind = "object_store".toList
  match v with
  | .array [.string kind] => if isArchive kind then .ok .archive else .error .malformed
  | .array [.string kind, .string url] =>
    if isStore kind then .ok (.objectStore url) else .error .malformed
  | .table entries =>
    match valueOf? entries "type", valueOf? entries "url" with
    | some (.string kind), url =>
      if isArchive kind then .ok .archive
      else
        match url with
        | some (.string url) =>
          if isStore kind then .ok (.objectStore url) else .error .malformed
        | _ => .error .malformed
    | _, _ => .error .malformed
  | _ => .error .malformed

/-- A setting of the sink among those of its table. -/
def sinkSetter {β : Type} (read : Toml → Except ConfigError β) (put : Settings → β → Settings) :
    Setter BundleConfig :=
  setter read fun c value => { c with settings := put c.settings value }

def bundleSetters : Setters BundleConfig :=
  [("connection", sinkSetter text fun s connection => { s with connection }),
    ("base_name", sinkSetter text fun s baseName => { s with baseName }),
    ("max_file_size", sinkSetter natural fun s maxFileSize => { s with maxFileSize }),
    ("roll_over_interval", sinkSetter duration fun s rollInterval => { s with rollInterval }),
    ("tick_interval", sinkSetter duration fun s tickInterval => { s with tickInterval }),
    ("max_in_flight", sinkSetter natural fun s most => { s with maxInFlight := some most }),
    ("queue_size", setter natural fun c queueSize => { c with queueSize }),
    ("failure_log_interval",
      sinkSetter duration fun s failureLogInterval => { s with failureLogInterval }),
    ("metrics_enabled", setter boolean fun c metricsEnabled => { c with metricsEnabled }),
    ("metrics_interval", setter duration fun c metricsInterval => { c with metricsInterval }),
    ("backend", setter backend fun c backend => { c with backend })]

/-- The tables of a document. -/
def setters : Setters Config :=
  [("log", fun c v => (takeIn logSetters c.log v).map fun log => { c with log }),
    ("bundle", fun c v => (takeIn bundleSetters c.bundle v).map fun bundle => { c with bundle })]

def ofDocument (entries : List (Text × Toml)) : Except ConfigError Config :=
  takeNamed setters .default entries

end Outbox.Config
