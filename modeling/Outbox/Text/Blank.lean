import Outbox.Text.Utf8

/-!
Blank characters, those of the Unicode property White_Space, and texts without them at the ends.
-/

set_option autoImplicit false

namespace Outbox

/-- Whether a character has the Unicode property White_Space. -/
def isBlank (c : Char) : Bool :=
  let n := c.toNat
  (0x09 ≤ n && n ≤ 0x0D) || n = 0x20 || n = 0x85 || n = 0xA0 || n = 0x1680
    || (0x2000 ≤ n && n ≤ 0x200A) || n = 0x2028 || n = 0x2029 || n = 0x202F || n = 0x205F
    || n = 0x3000

namespace Text

/-- A text without the characters at its end that satisfy `p`. -/
def dropEndWhile (p : Char → Bool) (text : Text) : Text :=
  (text.reverse.dropWhile p).reverse

def stripWhile (p : Char → Bool) (text : Text) : Text :=
  dropEndWhile p (text.dropWhile p)

def strip (text : Text) : Text :=
  stripWhile isBlank text

end Text

end Outbox
