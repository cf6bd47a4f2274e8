import Outbox.Text.Percent
import Outbox.Url.Domain

/-!
Hosts of URLs: names, addresses of four bytes, and addresses of eight pieces of two bytes. A host
that ends in a number must be an address. Names of the web schemes are domain names; the names of
other schemes are kept as written.
-/

set_option autoImplicit false

namespace Outbox

inductive UrlError where
  | noScheme
  | emptyHost
  | badName
  | badPort
  | badAddress4
  | badAddress6
  | badHostChar
  deriving DecidableEq, Repr

def UrlError.message : UrlError → String
  | .noScheme => "relative URL without a base"
  | .emptyHost => "empty host"
  | .badName => "invalid international domain name"
  | .badPort => "invalid port number"
  | .badAddress4 => "invalid IPv4 address"
  | .badAddress6 => "invalid IPv6 address"
  | .badHostChar => "invalid domain character"

inductive Host where
  | name (text : Text)
  | address4 (value : Nat)
  | address6 (pieces : List Nat)
  deriving DecidableEq, Repr

namespace Host

def isControl (c : Char) : Bool :=
  c.toNat < 32 || c.toNat = 127

/-- The number that a part of an address of four bytes writes, in decimal, octal behind a zero,
or hexadecimal behind `0x`. -/
def number? (part : Text) : Option Nat :=
  let read (base : Nat) (digits : Text) : Option Nat :=
    (digits.mapM Digits.hex?).bind fun values =>
      if values.all (· < base) then some (Digits.value base values) else none
  match part with
  | [] => none
  | '0' :: 'x' :: digits => read 16 digits
  | '0' :: 'X' :: digits => read 16 digits
  | ['0'] => some 0
  | '0' :: digits => read 8 digits
  | digits => read 10 digits

/-- The parts of a name between its dots; a dot at the end counts for nothing. -/
def parts (name : Text) : List Text :=
  let all := Text.cutAt '.' name
  if all.getLast? = some [] && 1 < all.length then all.dropLast else all

/-- Whether a name ends in a number, so that it has to be an address. -/
def endsInNumber (name : Text) : Bool :=
  match (parts name).getLast? with
  | none => false
  | some last =>
    (last ≠ [] && last.all fun c => (Digits.decimal? c).isSome) || (number? last).isSome

/-- The value of an address of four bytes: each part but the last is one byte, the last is all
the bytes that are left. -/
def address4? (name : Text) : Option Nat :=
  if 4 < (parts name).length then none
  else
    (parts name).mapM number? |>.bind fun numbers =>
      match numbers.reverse with
      | [] => none
      | last :: before =>
        if Nat.pow 256 (4 - before.length) ≤ last || before.any (255 < ·) then none
        else
          some (before.reverse.zipIdx.foldl
            (fun sum part => sum + part.1 * Nat.pow 256 (3 - part.2)) last)

/-- The four bytes of an address in decimal, without leading zeros, as two pieces. -/
def dottedPieces? (text : Text) : Option (List Nat) :=
  let byte (part : Text) : Option Nat :=
    if part = [] || 3 < part.length || (part.head? = some '0' && 1 < part.length) then none
    else
      (part.mapM Digits.decimal?).bind fun digits =>
        if Digits.value 10 digits ≤ 255 then some (Digits.value 10 digits) else none
  match (Text.cutAt '.' text).mapM byte with
  | some [a, b, c, d] => some [a * 256 + b, c * 256 + d]
  | _ => none

/-- One to four hexadecimal digits. -/
def piece? (text : Text) : Option Nat :=
  if text = [] || 4 < text.length then none
  else (text.mapM Digits.hex?).map (Digits.value 16)

/-- Pieces between colons; `last` says that the last may be an address of four bytes. -/
def pieces? (last : Bool) : List Text → Option (List Nat)
  | [] => some []
  | [part] =>
    if last && part.contains '.' then dottedPieces? part else (piece? part).map ([·])
  | part :: rest => do return (← piece? part) :: (← pieces? last rest)

/-- The pieces that a text writes; the empty text writes none. -/
def pieceList? (last : Bool) (text : Text) : Option (List Nat) :=
  if text = [] then some [] else pieces? last (Text.cutAt ':' text)

def cutDouble : Text → Option (Text × Text)
  | ':' :: ':' :: rest => some ([], rest)
  | c :: rest => (cutDouble rest).map fun cut => (c :: cut.1, cut.2)
  | [] => none

/-- The eight pieces of an address; a double colon stands for as many zeros as are missing, at
least one. -/
def address6? (text : Text) : Option (List Nat) :=
  match cutDouble text with
  | none =>
    (pieceList? true text).bind fun pieces => if pieces.length = 8 then some pieces else none
  | some (before, after) => do
    let front ← pieceList? false before
    let back ← pieceList? true after
    if front.length + back.length ≤ 7 then
      some (front ++ List.replicate (8 - front.length - back.length) 0 ++ back)
    else none

/-- An address of eight pieces in brackets. -/
def bracketed (text : Text) : Except UrlError Host :=
  if text.getLast? ≠ some ']' then .error .badAddress6
  else
    match address6? (text.drop 1).dropLast with
    | some pieces => .ok (.address6 pieces)
    | none => .error .badAddress6

/-- A character that no name of another scheme may have. -/
def isForbidden (c : Char) : Bool :=
  ['\x00', '\t', '\n', '\r', ' ', '#', '/', ':', '<', '>', '?', '@', '[', '\\', ']', '^',
    '|'].contains c

def ofWeb (text : Text) : Except UrlError Host :=
  if text.head? = some '[' then bracketed text
  else
    match Utf8.decode (Percent.decode text) with
    | .error _ => .error .badName
    | .ok decoded =>
      match Domain.ascii? decoded with
      | none => .error .badName
      | some found =>
        if found = [] then .error .emptyHost
        else if endsInNumber found then
          match address4? found with
          | some value => .ok (.address4 value)
          | none => .error .badAddress4
        else .ok (.name found)

def ofOther (text : Text) : Except UrlError Host :=
  if text.head? = some '[' then bracketed text
  else if text.any isForbidden then .error .badHostChar
  else .ok (.name (Percent.encode isControl text))

/-- The start and length of the first of the longest runs of zeros in a list, if one is longer
than one. -/
def longestZeros (pieces : List Nat) : Option (Nat × Nat) :=
  let runs := (List.range pieces.length).map fun start =>
    (start, ((pieces.drop start).takeWhile (· = 0)).length)
  runs.foldl (fun best run =>
    match best with
    | none => if 1 < run.2 then some run else none
    | some b => if b.2 < run.2 then some run else some b) none

def piecesText (pieces : List Nat) : Text :=
  [':'].intercalate (pieces.map fun n => (Nat.toDigits 16 n))

def text : Host → Text
  | .name text => text
  | .address4 value =>
    ['.'].intercalate
      ([value / 16777216, value / 65536 % 256, value / 256 % 256, value % 256].map Digits.decimal)
  | .address6 pieces =>
    match longestZeros pieces with
    | none => '[' :: piecesText pieces ++ [']']
    | some (start, length) =>
      '[' :: piecesText (pieces.take start) ++ [':', ':']
        ++ piecesText (pieces.drop (start + length)) ++ [']']

end Host

end Outbox
