/-!
Texts, byte strings, and UTF-8 between them. `encode` writes a text as bytes, `decode` reads bytes
back or says where and how they stop being UTF-8. Parts of a text can be told by positions in its
bytes.
-/

set_option autoImplicit false

namespace Outbox

abbrev Text := List Char

/-- Whether a text comes before another or is the same, in the order of code points. It is also the
order of the bytes in UTF-8. -/
def Text.atMost : Text → Text → Bool
  | [], _ => true
  | _ :: _, [] => false
  | a :: as, b :: bs => a.toNat < b.toNat || (a = b && atMost as bs)

/-- The content of a file, a record or an object. -/
abbrev Bytes := List UInt8

namespace Utf8

def encode (text : Text) : Bytes :=
  text.flatMap String.utf8EncodeChar

def size (text : Text) : Nat :=
  text.foldl (fun n c => n + c.utf8Size) 0

/-- What a text holds behind a number of bytes, unless they end inside a character. -/
def drop? : Nat → Text → Option Text
  | 0, text => some text
  | _ + 1, [] => none
  | n + 1, c :: rest => if c.utf8Size ≤ n + 1 then drop? (n + 1 - c.utf8Size) rest else none

/-- The characters that a number of bytes at the start of a text hold, unless they end inside a
character. -/
def take? : Nat → Text → Option Text
  | 0, _ => some []
  | _ + 1, [] => none
  | n + 1, c :: rest =>
    if c.utf8Size ≤ n + 1 then (take? (n + 1 - c.utf8Size) rest).map (c :: ·) else none

/-- The characters from one byte of a text up to another, unless one of the two is inside a
character. -/
def cut? (first last : Nat) (text : Text) : Option Text :=
  (drop? first text).bind (take? (last - first))

/-- How a byte string fails to be UTF-8, with the index of the first byte that belongs to no
character: `length` bytes there begin no character, or the bytes end inside a character. -/
inductive Malformed where
  | invalid (index length : Nat)
  | incomplete (index : Nat)
  deriving DecidableEq, Repr

def Malformed.message : Malformed → String
  | .invalid index length => s!"invalid utf-8 sequence of {length} bytes from index {index}"
  | .incomplete index => s!"incomplete utf-8 byte sequence from index {index}"

/-- Whether a byte may follow the first byte of a character. -/
def isContinuation (b : UInt8) : Bool :=
  0x80 ≤ b && b ≤ 0xBF

/-- Whether `second` may follow the first byte of a character of three bytes: the shortest form
only, and no surrogates. -/
def isSecondOfThree (first second : UInt8) : Bool :=
  if first = 0xE0 then 0xA0 ≤ second && second ≤ 0xBF
  else if first = 0xED then 0x80 ≤ second && second ≤ 0x9F
  else isContinuation second

/-- Whether `second` may follow the first byte of a character of four bytes: the shortest form
only, and no code point above U+10FFFF. -/
def isSecondOfFour (first second : UInt8) : Bool :=
  if first = 0xF0 then 0x90 ≤ second && second ≤ 0xBF
  else if first = 0xF4 then 0x80 ≤ second && second ≤ 0x8F
  else isContinuation second

/-- The six low bits of a continuation byte. -/
def tailBits (b : UInt8) : Nat :=
  b.toNat % 64

/-- Decodes from byte `index` on; `read` holds the characters before it, last first. -/
def decodeFrom (index : Nat) (read : Text) : Bytes → Except Malformed Text
  | [] => .ok read.reverse
  | a :: rest =>
    if a < 0x80 then decodeFrom (index + 1) (Char.ofNat a.toNat :: read) rest
    else if a < 0xC2 then .error (.invalid index 1)
    else if a < 0xE0 then
      match rest with
      | [] => .error (.incomplete index)
      | b :: rest =>
        if isContinuation b then
          decodeFrom (index + 2) (Char.ofNat (a.toNat % 32 * 64 + tailBits b) :: read) rest
        else .error (.invalid index 1)
    else if a < 0xF0 then
      match rest with
      | [] => .error (.incomplete index)
      | b :: rest =>
        if isSecondOfThree a b then
          match rest with
          | [] => .error (.incomplete index)
          | c :: rest =>
            if isContinuation c then
              decodeFrom (index + 3)
                (Char.ofNat (a.toNat % 16 * 4096 + tailBits b * 64 + tailBits c) :: read) rest
            else .error (.invalid index 2)
        else .error (.invalid index 1)
    else if a < 0xF5 then
      match rest with
      | [] => .error (.incomplete index)
      | b :: rest =>
        if isSecondOfFour a b then
          match rest with
          | [] => .error (.incomplete index)
          | c :: rest =>
            if isContinuation c then
              match rest with
              | [] => .error (.incomplete index)
              | d :: rest =>
                if isContinuation d then
                  decodeFrom (index + 4)
                    (Char.ofNat (a.toNat % 8 * 262144 + tailBits b * 4096 + tailBits c * 64
                      + tailBits d) :: read) rest
                else .error (.invalid index 3)
            else .error (.invalid index 2)
        else .error (.invalid index 1)
    else .error (.invalid index 1)

def decode (bytes : Bytes) : Except Malformed Text :=
  decodeFrom 0 [] bytes

end Utf8

end Outbox
