import Outbox.Text.Digits

/-!
Sets of characters by ranges of code points, and how tables write them: in hexadecimal,
`first-last` or one code point alone, with blanks between them.
-/

set_option autoImplicit false

namespace Outbox

/-- A text cut at every occurrence of a character. -/
def Text.cutAt (separator : Char) : Text → List Text
  | [] => [[]]
  | c :: rest =>
    match cutAt separator rest with
    | [] => [[c]]
    | first :: others =>
      if c = separator then [] :: first :: others else (c :: first) :: others

/-- Ranges of code points, each with its first and its last one. -/
abbrev Ranges := List (Nat × Nat)

namespace Ranges

def number (digits : Text) : Nat :=
  Digits.value 16 (digits.filterMap Digits.hex?)

def range (word : Text) : Nat × Nat :=
  let first := word.takeWhile (· ≠ '-')
  let last := word.drop (first.length + 1)
  (number first, number (if last = [] then first else last))

/-- The words of a table, which is written in rows. -/
def words (rows : List String) : List Text :=
  rows.flatMap fun row => Text.cutAt ' ' row.toList

def ofRows (rows : List String) : Ranges :=
  (words rows).map range

def has (ranges : Ranges) (c : Char) : Bool :=
  ranges.any fun r => r.1 ≤ c.toNat && c.toNat ≤ r.2

end Ranges

end Outbox
