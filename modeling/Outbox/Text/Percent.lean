import Outbox.Text.Digits

/-!
Percent encoding: a byte as a percent sign and two hexadecimal digits. `encode` writes the
characters of a class so, `decode` reads every such triple back as its byte.
-/

set_option autoImplicit false

namespace Outbox.Percent

/-- A byte as a percent sign and two digits. -/
def triple (b : UInt8) : Text :=
  ['%', Digits.upperHex (b.toNat / 16), Digits.upperHex (b.toNat % 16)]

/-- A text in which the characters that satisfy `reserved`, and all beyond ASCII, are written as
the triples of their bytes. -/
def encode (reserved : Char → Bool) (text : Text) : Text :=
  text.flatMap fun c =>
    if reserved c || 128 ≤ c.toNat then (String.utf8EncodeChar c).flatMap triple else [c]

/-- The bytes of a text in which triples stand for their bytes. A percent sign that starts no
triple stands for itself. -/
def decode : Text → Bytes
  | [] => []
  | '%' :: high :: low :: rest =>
    match Digits.hex? high, Digits.hex? low with
    | some h, some l => UInt8.ofNat (h * 16 + l) :: decode rest
    | _, _ => String.utf8EncodeChar '%' ++ decode (high :: low :: rest)
  | c :: rest => String.utf8EncodeChar c ++ decode rest

end Outbox.Percent
