import Outbox.Disk.Error

/-!
Why a configuration is not accepted.
-/

set_option autoImplicit false

namespace Outbox

inductive Problem where
  | notPlainName (name : Name)
  | zero
  | zeroLimit
  | zeroWithMetrics
  | other (text : String)
  deriving DecidableEq, Repr

def Problem.message : Problem → String
  | .notPlainName name => "'" ++ String.ofList name ++ "' is not a plain file name"
  | .zero => "must be greater than 0"
  | .zeroLimit => "must be at least 1 when set"
  | .zeroWithMetrics => "must be greater than 0 when metrics are enabled"
  | .other text => text

/-- Why a configuration is not accepted. -/
inductive ConfigError where
  | unreadable (path : Path) (cause : IoError)
  /-- The text is no document, or a setting has a value of another kind. -/
  | malformed
  /-- A length of time is one second more than the longest, which nothing can be done about. -/
  | beyondLongest
  | missing (table key : String)
  | invalid (table key : String) (problem : Problem)
  deriving DecidableEq, Repr

namespace ConfigError

def message : ConfigError → String
  | .unreadable path cause =>
    "failed to read config file '" ++ path.text ++ "': " ++ cause.message
  | .malformed => "failed to parse config"
  | .beyondLongest => "a length of time is longer than any can be"
  | .missing table key => "[" ++ table ++ "] is missing required field '" ++ key ++ "'"
  | .invalid table key problem => "[" ++ table ++ "] has invalid " ++ key ++ ": " ++ problem.message

/-- The wording of a configuration error and of its causes. -/
def chain (e : ConfigError) : List String :=
  e.message ::
    match e with
    | .unreadable _ cause => [cause.message]
    | _ => []

end ConfigError

end Outbox
