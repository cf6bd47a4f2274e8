import Outbox.Text.Digits

/-!
Reports for a status page: a tree of named values, and its text in JSON.
-/

set_option autoImplicit false

namespace Outbox

inductive Report where
  | absent
  | number (n : Nat)
  | text (s : String)
  | record (fields : List (String × Report))
  deriving Repr

namespace Report

def fourHex (n : Nat) : Text :=
  [n / 4096 % 16, n / 256 % 16, n / 16 % 16, n % 16].map Digits.lowerHex

/-- A character inside a quoted text. Quotes, backslashes and controls are escaped. -/
def quotedChar (c : Char) : Text :=
  if c = '"' then ['\\', '"']
  else if c = '\\' then ['\\', '\\']
  else if c = '\n' then ['\\', 'n']
  else if c = '\r' then ['\\', 'r']
  else if c = '\t' then ['\\', 't']
  else if c = '\x08' then ['\\', 'b']
  else if c = '\x0c' then ['\\', 'f']
  else if c.toNat < 32 then '\\' :: 'u' :: fourHex c.toNat
  else [c]

def quoted (s : String) : Text :=
  '"' :: s.toList.flatMap quotedChar ++ ['"']

mutual

def json : Report → Text
  | .absent => "null".toList
  | .number n => Digits.decimal n
  | .text s => quoted s
  | .record fields => '{' :: jsonFields fields ++ ['}']

/-- The fields of a record in JSON, with commas between them. -/
def jsonFields : List (String × Report) → Text
  | [] => []
  | [(name, value)] => quoted name ++ ':' :: json value
  | (name, value) :: rest => quoted name ++ ':' :: json value ++ ',' :: jsonFields rest

end

end Report

end Outbox
