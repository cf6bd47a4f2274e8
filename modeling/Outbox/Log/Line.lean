import Outbox.Config.Basic
import Outbox.Time.Pattern

/-!
The lines of the log: an event with the time at which it was told, in one of two forms.
-/

set_option autoImplicit false

namespace Outbox

/-- The time of a line: a date and a time of day with six decimals, in UTC. -/
def Timestamp.stamp (t : Timestamp) : Text :=
  (t.format? "%Y-%m-%dT%H:%M:%S%.6fZ".toList).getD []

namespace Event

/-- A value behind the name of its field. Texts stand without quotes. -/
def fieldText (name : String) (value : Report) : Text :=
  ' ' :: name.toList ++ '=' ::
    match value with
    | .text s => s.toList
    | other => other.json

/-- A line for people: time, level, part of the program, message and fields. -/
def consoleLine (t : Timestamp) (e : Event) : Text :=
  t.stamp ++ ' ' :: Digits.fillTo 5 ' ' e.level.label.toList ++ ' ' :: e.source.target.toList
    ++ ':' :: ' ' :: e.message.toList ++ e.fields.flatMap fun f => fieldText f.1 f.2

/-- A line for programs: the same as a record. -/
def jsonLine (t : Timestamp) (e : Event) : Text :=
  (Report.record
    [("timestamp", .text (String.ofList t.stamp)), ("level", .text e.level.label),
      ("fields", .record (("message", .text e.message) :: e.fields)),
      ("target", .text e.source.target)]).json

def line (format : LogFormat) (t : Timestamp) (e : Event) : Text :=
  match format with
  | .console => e.consoleLine t
  | .json => e.jsonLine t

end Event

end Outbox
