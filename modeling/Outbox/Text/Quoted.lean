import Outbox.Text.Unseen

/-!
Quoted texts for people who look for faults: what cannot be seen is written as an escape.
-/

set_option autoImplicit false

namespace Outbox.Quoted

/-- A code point in braces behind `\u`. -/
def codePoint (n : Nat) : Text :=
  '\\' :: 'u' :: '\x7b' :: Nat.toDigits 16 n ++ ['\x7d']

/-- A character in quotes. -/
def escape (c : Char) : Text :=
  if c = '"' then ['\\', '"']
  else if c = '\\' then ['\\', '\\']
  else if c = '\n' then ['\\', 'n']
  else if c = '\r' then ['\\', 'r']
  else if c = '\t' then ['\\', 't']
  else if c = '\x00' then ['\\', '0']
  else if Unseen.isUnseen c then codePoint c.toNat
  else [c]

def encode (text : Text) : Text :=
  '"' :: text.flatMap escape ++ ['"']

end Outbox.Quoted
