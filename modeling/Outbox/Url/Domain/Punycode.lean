import Outbox.Text.Digits

/-!
Labels beyond ASCII written in ASCII: first the characters of ASCII, then, behind a hyphen, where
each of the others goes, in the order of their code points. Where a character goes is a number in
digits of base 36, the least first, that tells by their size which of them is the last.
-/

set_option autoImplicit false

namespace Outbox.Punycode

/-- The digit of a number below 36: the small letters, then the numerals. -/
def digit (n : Nat) : Char :=
  if n < 26 then Char.ofNat (97 + n) else Char.ofNat (22 + n)

/-- The value of a digit, in letters of either case. -/
def value? (c : Char) : Option Nat :=
  if c.isLower then some (c.toNat - 97)
  else if c.isUpper then some (c.toNat - 65)
  else if c.isDigit then some (c.toNat - 22)
  else none

/-- The least value that a digit has if another one follows, by its place (36 for the first, 36
more for each) and the bias. -/
def threshold (place bias : Nat) : Nat :=
  if place ≤ bias then 1 else if bias + 26 ≤ place then 26 else place - bias

/-- No threshold is zero, so that digits end. -/
theorem one_le_threshold (place bias : Nat) : 1 ≤ threshold place bias := by
  unfold threshold
  split
  · exact Nat.le_refl 1
  · split <;> omega

/-- Scales a number down until it is small, and counts the steps in places. -/
def scaled (n place : Nat) : Nat × Nat :=
  if 455 < n then scaled (n / 35) (place + 36) else (n, place)
termination_by n
decreasing_by exact Nat.div_lt_self (by omega) (by omega)

/-- The bias after a number, by the count of characters placed so far. -/
def adapted (n count : Nat) (isFirst : Bool) : Nat :=
  let n := if isFirst then n / 700 else n / 2
  let (n, place) := scaled (n + n / count) 0
  place + 36 * n / (n + 38)

/-- The digits of a number, from a place on. -/
def digits (bias place n : Nat) : Text :=
  let t := threshold place bias
  if n < t then [digit n]
  else digit (t + (n - t) % (36 - t)) :: digits bias (place + 36) ((n - t) / (36 - t))
termination_by n
decreasing_by
  have := one_le_threshold place bias
  exact Nat.lt_of_le_of_lt (Nat.div_le_self ..) (by omega)

/-- What has been written of a label while its characters are placed. -/
structure Draft where
  written : Text
  /-- The steps since the last character that was placed. -/
  steps : Nat
  bias : Nat
  /-- The characters placed so far, those of ASCII among them. -/
  count : Nat

/-- Passes a character of the label when the characters with the code point `n` are placed. -/
def Draft.pass (basic n : Nat) (d : Draft) (c : Char) : Draft :=
  if c.toNat < n then { d with steps := d.steps + 1 }
  else if c.toNat = n then
    { written := d.written ++ digits d.bias 36 d.steps, steps := 0
      bias := adapted d.steps (d.count + 1) (d.count = basic), count := d.count + 1 }
  else d

/-- Places the characters with each of several code points; `next` is one more than the last. -/
def placeAll (label : Text) (basic : Nat) : List Nat → Nat → Draft → Draft
  | [], _, d => d
  | n :: rest, next, d =>
    let before := { d with steps := d.steps + (n - next) * (d.count + 1) }
    let after := label.foldl (Draft.pass basic n) before
    placeAll label basic rest (n + 1) { after with steps := after.steps + 1 }

def ordered (numbers : List Nat) : List Nat :=
  (numbers.mergeSort (· ≤ ·)).eraseDups

def encode (label : Text) : Text :=
  let basic := label.filter (·.toNat < 128)
  let others := ordered ((label.map Char.toNat).filter (128 ≤ ·))
  basic ++ (if basic = [] then [] else ['-'])
    ++ (placeAll label basic.length others 128
      { written := [], steps := 0, bias := 72, count := basic.length }).written

/-- The number at the start of a text, on from a place and a weight, and what follows it. -/
def number? (bias place weight n : Nat) : Text → Option (Nat × Text)
  | [] => none
  | c :: rest => do
    let d ← value? c
    let t := threshold place bias
    if d < t then some (n + d * weight, rest)
    else number? bias (place + 36) (weight * (36 - t)) (n + d * weight) rest

/-- Puts the characters that a text places, at most `bound`, into a label. The next one has a code
point from `n` on, and goes `steps` steps from the start or later. -/
def insertAll : Nat → Nat → Nat → Nat → Text → Text → Option Text
  | 0, _, _, _, _, _ => none
  | _, _, _, _, label, [] => some label
  | bound + 1, n, steps, bias, label, text => do
    let (delta, rest) ← number? bias 36 1 0 text
    let size := label.length + 1
    let total := steps + delta
    let n := n + total / size
    if n < 0xD800 || (0xE000 ≤ n && n < 0x110000) then
      insertAll bound n (total % size + 1) (adapted delta size (steps = 0))
        (label.insertIdx (total % size) (Char.ofNat n)) rest
    else none

/-- The label that a text in ASCII stands for. -/
def decode? (text : Text) : Option Text :=
  let placed := (text.reverse.takeWhile (· ≠ '-')).reverse
  let basic := text.take (text.length - placed.length - 1)
  if text.contains '-' && basic = [] then none
  else insertAll (text.length + 1) 128 0 72 basic placed

end Outbox.Punycode
