import Outbox.Text.Utf8

/-!
Numbers as digits: decimal numerals, padded to a width, and hexadecimal digits of a byte.
-/

set_option autoImplicit false

namespace Outbox.Digits

def decimal (n : Nat) : Text :=
  Nat.toDigits 10 n

/-- A text filled up on the left to a width. -/
def fillTo (width : Nat) (fill : Char) (text : Text) : Text :=
  List.replicate (width - text.length) fill ++ text

/-- A decimal numeral with leading zeros up to a width. -/
def zeroed (width n : Nat) : Text :=
  fillTo width '0' (decimal n)

/-- The digit of a number below sixteen, in capitals. -/
def upperHex (n : Nat) : Char :=
  if n < 10 then Char.ofNat (48 + n) else Char.ofNat (55 + n)

/-- The digit of a number below sixteen, in small letters. -/
def lowerHex (n : Nat) : Char :=
  if n < 10 then Char.ofNat (48 + n) else Char.ofNat (87 + n)

def decimal? (c : Char) : Option Nat :=
  if '0' ≤ c && c ≤ '9' then some (c.toNat - 48) else none

/-- The value of a hexadecimal digit of either case. -/
def hex? (c : Char) : Option Nat :=
  if '0' ≤ c && c ≤ '9' then some (c.toNat - 48)
  else if 'a' ≤ c && c ≤ 'f' then some (c.toNat - 87)
  else if 'A' ≤ c && c ≤ 'F' then some (c.toNat - 55)
  else none

/-- The number that digits of a base write, most significant first. -/
def value (base : Nat) (digits : List Nat) : Nat :=
  digits.foldl (fun n digit => n * base + digit) 0

end Outbox.Digits
