import Outbox.Toml.Value
import Outbox.Text.Digits
import Outbox.Time.Calendar

/-!
Strings, numbers, dates and words of TOML. A string is read off the front of a text; any other
scalar is one token that has to have one of the forms as a whole.
-/

set_option autoImplicit false

namespace Outbox.Toml

/-- A space or a tab. -/
def isSpace (c : Char) : Bool :=
  c = ' ' || c = '\t'

/-- A character that may stand in a comment: no control but the tab. -/
def isShown (c : Char) : Bool :=
  c = '\t' || (32 ≤ c.toNat && c.toNat ≠ 127)

def codePoint? (digits : List Char) : Option Char :=
  (digits.mapM Digits.hex?).bind fun values =>
    let n := Digits.value 16 values
    if n < 0xD800 || (0xDFFF < n && n ≤ 0x10FFFF) then some (Char.ofNat n) else none

def escaped? : Char → Option Char
  | 'b' => some '\x08'
  | 't' => some '\t'
  | 'n' => some '\n'
  | 'f' => some '\x0c'
  | 'r' => some '\r'
  | '"' => some '"'
  | '\\' => some '\\'
  | _ => none

/-- The rest of a basic string of one line and what follows its closing quote. `read` holds the
characters before, last first. -/
def basic (read : Text) : Text → Option (Text × Text)
  | [] => none
  | '"' :: rest => some (read.reverse, rest)
  | '\\' :: 'u' :: a :: b :: c :: d :: rest => do basic ((← codePoint? [a, b, c, d]) :: read) rest
  | '\\' :: 'U' :: a :: b :: c :: d :: e :: f :: g :: h :: rest => do
    basic ((← codePoint? [a, b, c, d, e, f, g, h]) :: read) rest
  | '\\' :: c :: rest => do basic ((← escaped? c) :: read) rest
  | c :: rest => if isShown c then basic (c :: read) rest else none

/-- The rest of a literal string of one line and what follows its closing quote. -/
def quotedLiteral (read : Text) : Text → Option (Text × Text)
  | [] => none
  | '\'' :: rest => some (read.reverse, rest)
  | c :: rest => if isShown c then quotedLiteral (c :: read) rest else none

/-- Whether a text goes on with spaces and then a line end. -/
def startsLineEnd (text : Text) : Bool :=
  match text.dropWhile isSpace with
  | '\n' :: _ => true
  | '\r' :: '\n' :: _ => true
  | _ => false

/-- The rest of a basic string of several lines and what follows its closing quotes. While `skip`
is set, which is behind an escaped line end, blanks and line ends count for nothing. -/
def basicLines (skip : Bool) (read : Text) : Text → Option (Text × Text)
  | [] => none
  | '"' :: '"' :: '"' :: '"' :: '"' :: rest => some (('"' :: '"' :: read).reverse, rest)
  | '"' :: '"' :: '"' :: '"' :: rest => some (('"' :: read).reverse, rest)
  | '"' :: '"' :: '"' :: rest => some (read.reverse, rest)
  | '\r' :: '\n' :: rest =>
    if skip then basicLines true read rest else basicLines false ('\n' :: read) rest
  | '\n' :: rest =>
    if skip then basicLines true read rest else basicLines false ('\n' :: read) rest
  | '\\' :: 'u' :: a :: b :: c :: d :: rest => do
    basicLines false ((← codePoint? [a, b, c, d]) :: read) rest
  | '\\' :: 'U' :: a :: b :: c :: d :: e :: f :: g :: h :: rest => do
    basicLines false ((← codePoint? [a, b, c, d, e, f, g, h]) :: read) rest
  | '\\' :: c :: rest =>
    if startsLineEnd (c :: rest) then basicLines true read (c :: rest)
    else do basicLines false ((← escaped? c) :: read) rest
  | c :: rest =>
    if skip && isSpace c then basicLines true read rest
    else if isShown c then basicLines false (c :: read) rest
    else none

/-- The rest of a literal string of several lines and what follows its closing quotes. -/
def literalLines (read : Text) : Text → Option (Text × Text)
  | [] => none
  | '\'' :: '\'' :: '\'' :: '\'' :: '\'' :: rest => some (('\'' :: '\'' :: read).reverse, rest)
  | '\'' :: '\'' :: '\'' :: '\'' :: rest => some (('\'' :: read).reverse, rest)
  | '\'' :: '\'' :: '\'' :: rest => some (read.reverse, rest)
  | '\r' :: '\n' :: rest => literalLines ('\n' :: read) rest
  | '\n' :: rest => literalLines ('\n' :: read) rest
  | c :: rest => if isShown c then literalLines (c :: read) rest else none

def dropLineEnd : Text → Text
  | '\n' :: rest => rest
  | '\r' :: '\n' :: rest => rest
  | text => text

def string? : Text → Option (Text × Text)
  | '"' :: '"' :: '"' :: rest => basicLines false [] (dropLineEnd rest)
  | '"' :: rest => basic [] rest
  | '\'' :: '\'' :: '\'' :: rest => literalLines [] (dropLineEnd rest)
  | '\'' :: rest => quotedLiteral [] rest
  | _ => none

/-- The digits of a number in which single underscores may stand between two digits. -/
def digits? (isDigit : Char → Bool) : Text → Option Text
  | [] => none
  | [c] => if isDigit c then some [c] else none
  | c :: '_' :: rest => if isDigit c then (digits? isDigit rest).map (c :: ·) else none
  | c :: rest => if isDigit c then (digits? isDigit rest).map (c :: ·) else none

def isDecimal (c : Char) : Bool :=
  (Digits.decimal? c).isSome

/-- The value of digits of a base, with underscores between them. -/
def number? (base : Nat) (text : Text) : Option Nat := do
  let isDigit (c : Char) : Bool := (Digits.hex? c).any (· < base)
  return Digits.value base ((← digits? isDigit text).filterMap Digits.hex?)

/-- Digits of a number that does not start with a zero, unless it is zero. -/
def natural? (text : Text) : Option Text :=
  match text with
  | '0' :: _ :: _ => none
  | text => digits? isDecimal text

/-- A number without its sign, and whether the sign is negative. -/
def unsigned : Text → Bool × Text
  | '+' :: rest => (false, rest)
  | '-' :: rest => (true, rest)
  | text => (false, text)

/-- The integer that a token writes; it has to fit into 64 bits. -/
def integer? (token : Text) : Option Int :=
  let bounded (n : Int) : Option Int :=
    if -9223372036854775808 ≤ n ∧ n ≤ 9223372036854775807 then some n else none
  match token with
  | '0' :: 'x' :: rest => (number? 16 rest).bind fun n => bounded n
  | '0' :: 'o' :: rest => (number? 8 rest).bind fun n => bounded n
  | '0' :: 'b' :: rest => (number? 2 rest).bind fun n => bounded n
  | token =>
    let (negative, rest) := unsigned token
    (natural? rest).bind fun digits =>
      let n : Int := Digits.value 10 (digits.filterMap Digits.decimal?)
      bounded (if negative then -n else n)

/-- The least number that is nearer to two to the 1024 than to the largest floating-point number of
64 bits, or as near. -/
def hugeAt : Nat :=
  Nat.pow 2 1024 - Nat.pow 2 970

/-- Whether digits times a power of ten are too large for a floating-point number of 64 bits. -/
def isHuge (digits : Text) (exponent : Int) : Bool :=
  let n := Digits.value 10 (digits.filterMap Digits.decimal?)
  let places : Int := (Nat.toDigits 10 n).length + exponent
  if n = 0 || places < 309 then false
  else if 309 < places then true
  else if exponent < 0 then hugeAt * Nat.pow 10 exponent.natAbs ≤ n
  else hugeAt ≤ n * Nat.pow 10 exponent.toNat

def isFloat (token : Text) : Bool :=
  let (negative, body) := unsigned token
  if body = "inf".toList || body = "nan".toList then true
  else
    let isMark (c : Char) : Bool := c = 'e' || c = 'E'
    let mantissa := body.takeWhile fun c => !isMark c
    let whole := mantissa.takeWhile (· ≠ '.')
    let hasFraction := mantissa.contains '.'
    let fraction := mantissa.drop (whole.length + 1)
    let hasExponent := body.any isMark
    let (downwards, power) := unsigned (body.drop (mantissa.length + 1))
    match natural? whole, digits? isDecimal fraction, digits? isDecimal power with
    | some wholeDigits, fractionDigits, powerDigits =>
      let places := (fractionDigits.getD []).length
      let power := Digits.value 10 ((powerDigits.getD []).filterMap Digits.decimal?)
      (hasFraction || hasExponent)
        && (!hasFraction || fractionDigits.isSome)
        && (!hasExponent || powerDigits.isSome)
        && (negative
          || !isHuge (wholeDigits ++ fractionDigits.getD [])
            ((if downwards then -(power : Int) else power) - places))
    | none, _, _ => false

/-- The value of a number of exactly `places` digits. -/
def fixed? (places : Nat) (text : Text) : Option Nat :=
  if text.length = places && text.all isDecimal then
    some (Digits.value 10 (text.filterMap Digits.decimal?))
  else none

/-- Whether a text is an hour and a minute, apart from the other conditions on a time. -/
def isHourMinute (text : Text) : Bool :=
  match fixed? 2 (text.take 2), text.drop 2 with
  | some hour, ':' :: minute => hour ≤ 23 && (fixed? 2 minute).any (· ≤ 59)
  | _, _ => false

/-- A time of day without its fraction, if a text starts with one; what follows it. -/
def timeOfDay? (text : Text) : Option Text :=
  match text.drop 5 with
  | ':' :: rest =>
    if isHourMinute (text.take 5) && (fixed? 2 (rest.take 2)).any (· ≤ 60) then
      match rest.drop 2 with
      | '.' :: fraction =>
        if (fraction.head?.map isDecimal).getD false then some (fraction.dropWhile isDecimal)
        else none
      | rest => some rest
    else none
  | _ => none

/-- Whether a text is empty or an offset from UTC. -/
def isOffset : Text → Bool
  | [] => true
  | ['Z'] => true
  | ['z'] => true
  | '+' :: rest => isHourMinute rest
  | '-' :: rest => isHourMinute rest
  | _ => false

def isDate (text : Text) : Bool :=
  match fixed? 4 (text.take 4), text.drop 4 with
  | some year, '-' :: rest =>
    match fixed? 2 (rest.take 2), rest.drop 2 with
    | some month, '-' :: day =>
      match (Calendar.monthLengths (Calendar.isLeap year))[month - 1]?, fixed? 2 day with
      | some length, some day => 1 ≤ month && 1 ≤ day && day ≤ length
      | _, _ => false
    | _, _ => false
  | _, _ => false

/-- Whether a token is a date, a time, or both with `separator` between them. -/
def isDatetime (separator : Char → Bool) (token : Text) : Bool :=
  timeOfDay? token = some []
    || (isDate (token.take 10)
      && match token.drop 10 with
        | [] => true
        | c :: time => separator c && (timeOfDay? time).any isOffset)

def isTokenChar (c : Char) : Bool :=
  c.isAlphanum || c = '_' || c = '+' || c = '-' || c = '.' || c = ':'

def scalar? (token : Text) : Option Toml :=
  if token = "true".toList then some (.boolean true)
  else if token = "false".toList then some (.boolean false)
  else if isDatetime (fun c => c = 'T' || c = 't') token then some .datetime
  else if isFloat token then some .float
  else (integer? token).map .integer

/-- Whether a text goes on with a space and an hour, so that a date before it goes on with a
time. -/
def startsTime (text : Text) : Bool :=
  match text with
  | ' ' :: a :: b :: ':' :: _ => isDecimal a && isDecimal b
  | _ => false

/-- The scalar other than a string that a text starts with and what follows it. -/
def plain? (text : Text) : Option (Toml × Text) :=
  let token := text.takeWhile isTokenChar
  let rest := text.drop token.length
  if isDate token && startsTime rest then
    let time := (rest.drop 1).takeWhile isTokenChar
    if isDatetime (· = ' ') (token ++ ' ' :: time) then
      some (.datetime, rest.drop (time.length + 1))
    else none
  else (scalar? token).map fun value => (value, rest)

end Outbox.Toml
