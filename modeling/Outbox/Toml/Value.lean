import Outbox.Text.Utf8

/-!
The values of a TOML document, as far as a configuration can tell them apart: no setting is a
floating-point number or a date, so that these have no content here.
-/

set_option autoImplicit false

namespace Outbox

inductive Toml where
  | string (text : Text)
  | integer (n : Int)
  | float
  | boolean (b : Bool)
  | datetime
  | array (items : List Toml)
  | table (entries : List (Text × Toml))
  deriving Repr

end Outbox
