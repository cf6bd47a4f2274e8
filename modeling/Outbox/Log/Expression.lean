import Outbox.Text.Blank
import Outbox.Text.Digits
import Outbox.Text.Letter

/-!
Regular expressions in the filter of the log. This program has no spans of work whose fields they
could be matched with, so all that counts of an expression is whether it is accepted: reading one
gives how deep its parts are nested, and nothing for a text that is refused.

Letters of either case, the kinds of characters and the edges of words need tables of all
characters, which are not at hand. They are accepted only where an expression keeps to ASCII, and
there it must not be able to match half of a character.
-/

set_option autoImplicit false

namespace Outbox.Expression

def deepest : Nat := 250

/-- What has been asked for about the expression to come. -/
structure Mode where
  /-- Letters of either case match. -/
  anyCase : Bool
  /-- All characters count, and not only those of ASCII. -/
  full : Bool
  /-- Blanks and comments stand for nothing. -/
  spaced : Bool
  deriving DecidableEq, Repr

namespace Mode

def initial : Mode :=
  { anyCase := false, full := true, spaced := false }

/-- The mode behind the letter of a flag. The other flags are about the matching alone. -/
def set (m : Mode) (flag : Char) (value : Bool) : Mode :=
  match flag with
  | 'i' => { m with anyCase := value }
  | 'u' => { m with full := value }
  | 'x' => { m with spaced := value }
  | _ => m

/-- A text behind the blanks and comments at its start. -/
def withoutComments (inComment : Bool) : Text → Text
  | [] => []
  | c :: rest =>
    if inComment then withoutComments (c ≠ '\n') rest
    else if isBlank c then withoutComments false rest
    else if c = '#' then withoutComments true rest
    else c :: rest

/-- A text behind what stands for nothing at its start. -/
def skip (m : Mode) (text : Text) : Text :=
  if m.spaced then withoutComments false text else text

/-- The character that comes next in a set: the first one if all of them count, else the first
that is no blank. Of a comment only the sign it begins with is passed over. -/
def next? (m : Mode) (text : Text) : Option Char :=
  if m.spaced then
    match text.dropWhile isBlank with
    | [] => text.head?
    | '#' :: rest => (rest.dropWhile isBlank).head?.or text.head?
    | c :: _ => some c
  else text.head?

end Mode

/-- What matches one character or a place between two. -/
inductive Atom where
  /-- A character. It may be written as a byte in two hexadecimal digits. -/
  | literal (c : Char) (isByte : Bool)
  | anything
  /-- The digits, the blanks, or the characters of words; or all others. -/
  | kind (others : Bool)
  | property
  /-- The start or the end of a line or of the text. -/
  | margin
  | wordEdge
  deriving DecidableEq, Repr

namespace Mode

def admits (m : Mode) : Atom → Bool
  | .literal c isByte => if m.full then !m.anyCase else !(isByte && 128 ≤ c.toNat)
  | .anything => m.full
  | .kind others => !m.full && !others
  | .property => false
  | .margin => true
  | .wordEdge => !m.full

def admitsInSet (m : Mode) : Atom → Bool
  | .literal c _ => if m.full then !m.anyCase else c.toNat < 128
  | .kind others => !m.full && !others
  | .anything | .property | .margin | .wordEdge => false

def admitsNamed (m : Mode) (others : Bool) : Bool :=
  if m.full then !m.anyCase else !others

end Mode

/-- The number that hexadecimal digits write, and what stands behind them. -/
def readHex (m : Mode) (value : Nat) : Nat → Text → Option (Nat × Text)
  | 0, text => some (value, text)
  | count + 1, text =>
    match m.skip text with
    | [] => none
    | c :: rest => (Digits.hex? c).bind fun digit => readHex m (value * 16 + digit) count rest

/-- The letters behind a backslash that stand for a character. -/
def controls : List (Char × Char) :=
  [('a', '\x07'), ('f', '\x0c'), ('t', '\t'), ('n', '\n'), ('r', '\r'), ('v', '\x0b')]

/-- The letters behind a backslash that begin a character in hexadecimal digits, and how many
digits there are. -/
def hexLetters : List (Char × Nat) :=
  [('x', 2), ('u', 4), ('U', 8)]

/-- An atom from the text behind a backslash. Every mark of ASCII may be written so and stands for
itself, apart from the two that mean the edges of words. -/
def readEscape (m : Mode) : Text → Option (Atom × Text)
  | [] => none
  | c :: rest =>
    match hexLetters.lookup c, controls.lookup c with
    | some count, _ =>
      match readHex m 0 count rest with
      | some (value, rest) =>
        if value.isValidChar then some (.literal (Char.ofNat value) (c = 'x'), rest) else none
      | none => none
    | none, some control => some (.literal control false, rest)
    | none, none =>
      if "pP".contains c then some (.property, rest)
      else if "dsw".contains c then some (.kind false, rest)
      else if "DSW".contains c then some (.kind true, rest)
      else if "Az".contains c then some (.margin, rest)
      else if "bB<>".contains c then some (.wordEdge, rest)
      else if c.toNat < 128 && !c.isAlphanum then some (.literal c false, rest)
      else none

def readAtom (m : Mode) : Text → Option (Atom × Text)
  | [] => none
  | '\\' :: rest => readEscape m rest
  | '.' :: rest => some (.anything, rest)
  | '^' :: rest | '$' :: rest => some (.margin, rest)
  | c :: rest => some (.literal c false, rest)

def readMember (m : Mode) : Text → Option (Atom × Text)
  | [] => none
  | '\\' :: rest => readEscape m rest
  | c :: rest => some (.literal c false, rest)

/-- How deep parts that stand side by side are nested. One alone counts as itself. -/
def side (parts : List Nat) : Nat :=
  match parts with
  | [] => 0
  | [n] => n
  | several => several.foldl max 0 + 1

/-- How deep a set is nested, from what stands before and behind the last sign between two sets. -/
def joined (left : Option Nat) (items : List Nat) : Nat :=
  match left with
  | none => side items
  | some n => max n (side items) + 1

def setNames : List String :=
  ["alnum", "alpha", "ascii", "blank", "cntrl", "digit", "graph", "lower", "print", "punct",
    "space", "upper", "word", "xdigit"]

/-- A named set, from the text behind its bracket: whether all other characters are meant, and what
stands behind it. -/
def readNamed? : Text → Option (Bool × Text)
  | ':' :: text =>
    let others := text.head? = some '^'
    let text := if others then text.drop 1 else text
    let name := text.takeWhile (· ≠ ':')
    match text.drop name.length with
    | ':' :: ']' :: rest =>
      if setNames.contains (String.ofList name) then some (others, rest) else none
    | _ => none
  | _ => none

/-- The hyphens at the start of a set, which stand for themselves. -/
def skipHyphens (m : Mode) : Nat → Text → Nat × Text
  | 0, text => (0, text)
  | fuel + 1, text =>
    match text with
    | '-' :: rest =>
      match skipHyphens m fuel (m.skip rest) with
      | (count, rest) => (count + 1, rest)
    | _ => (0, text)

/-- The start of a set, from the text behind its bracket: the depths of the characters there that
stand for themselves, and what comes then. A set of all other characters is refused where only
ASCII counts, for it would hold parts of characters. -/
def openSet? (m : Mode) (text : Text) : Option (List Nat × Text) :=
  let text := m.skip text
  let others := text.head? = some '^'
  let text := if others then m.skip (text.drop 1) else text
  let (count, rest) :=
    match skipHyphens m text.length text with
    | (0, ']' :: rest) => (1, rest)
    | start => start
  if others && !m.full || 0 < count && !m.admitsInSet (.literal '-' false) then none
  else some (List.replicate count 0, rest)

/-- A character or a range in a set, and what stands behind it. -/
def readRange (m : Mode) (text : Text) : Option Text :=
  match readMember m text with
  | none => none
  | some (first, rest) =>
    let single := if m.admitsInSet first then some rest else none
    match m.skip rest with
    | '-' :: rest' =>
      if m.next? rest' = some ']' || m.next? rest' = some '-' then single
      else
        match first, readMember m (m.skip rest') with
        | .literal a _, some (.literal b isByte, rest) =>
          if m.admitsInSet first && m.admitsInSet (.literal b isByte) && a.toNat ≤ b.toNat then
            some rest
          else none
        | _, _ => none
    | _ => single

/-- The rest of a set: how deep the set is nested, and what stands behind it. The items since the
last sign between two sets are given by their depths, and so is what stands before that sign. -/
def readSet (m : Mode) : Nat → List Nat → Option Nat → Text → Option (Nat × Text)
  | 0, _, _, _ => none
  | fuel + 1, items, left, text =>
    match m.skip text with
    | [] => none
    | ']' :: rest => some (joined left items + 1, rest)
    | '&' :: '&' :: rest | '-' :: '-' :: rest | '~' :: '~' :: rest =>
      readSet m fuel [] (some (joined left items)) rest
    | '[' :: rest =>
      match readNamed? rest with
      | some (others, rest) =>
        if m.admitsNamed others then readSet m fuel (0 :: items) left rest else none
      | none =>
        match openSet? m rest with
        | none => none
        | some (start, rest) =>
          match readSet m fuel start none rest with
          | some (depth, rest) => readSet m fuel (depth :: items) left rest
          | none => none
    | member =>
      match readRange m member with
      | some rest => readSet m fuel (0 :: items) left rest
      | none => none

/-- What an opening parenthesis begins. -/
inductive Opening where
  /-- Nothing: the mode changes up to the end of the group around it. -/
  | change (m : Mode)
  | group (m : Mode) (names : List Text)
  deriving DecidableEq, Repr

/-- Flags up to a colon or a closing parenthesis, which is left: the mode they ask for, and whether
there are any. Those behind a hyphen are taken back. -/
def readFlags (m : Mode) (seen : Text) : Text → Option (Mode × Bool × Text)
  | [] => none
  | c :: rest =>
    if c = ':' || c = ')' then
      if seen.head? = some '-' then none else some (m, seen ≠ [], c :: rest)
    else if "imsUuRx-".contains c && !seen.contains c then
      readFlags (m.set c (!seen.contains '-')) (c :: seen) rest
    else none

def isGroupName : Text → Bool
  | [] => false
  | c :: rest =>
    (c = '_' || Letter.isLetter c)
      && rest.all fun c => c = '_' || c = '.' || c = '[' || c = ']' || Letter.isLetterOrNumeral c

/-- A group whose name begins a text. No two groups have the same name. -/
def readName (m : Mode) (names : List Text) (text : Text) : Option (Opening × Text) :=
  let name := text.takeWhile (· ≠ '>')
  match text.drop name.length with
  | '>' :: rest =>
    if isGroupName name && !names.contains name then some (.group m (name :: names), rest) else none
  | _ => none

/-- What an opening parenthesis begins, from the text behind it. Groups that look ahead or back are
refused. -/
def readOpening (m : Mode) (names : List Text) (text : Text) : Option (Opening × Text) :=
  match m.skip text with
  | '?' :: '=' :: _ | '?' :: '!' :: _ | '?' :: '<' :: '=' :: _ | '?' :: '<' :: '!' :: _ => none
  | '?' :: 'P' :: '<' :: rest | '?' :: '<' :: rest => readName m names rest
  | '?' :: rest =>
    match readFlags m [] rest with
    | some (m', _, ':' :: rest) => some (.group m' names, rest)
    | some (m', true, _ :: rest) => some (.change m', rest)
    | _ => none
  | rest => some (.group m names, rest)

inductive Part where
  | change
  | item (depth : Nat)
  deriving DecidableEq, Repr

def Part.depth : Part → Nat
  | .change => 0
  | .item depth => depth

/-- An expression up to its end or to a parenthesis that closes the group around it: how deep it is
nested, all names of groups up to there, and what is left. The branches before and the parts of the
last one are known. A repetition needs something to repeat, and one that counts is refused as the
braces of a filter do not reach so far. -/
def readBody : Nat → Mode → List Text → List Nat → List Part → Text →
    Option (Nat × List Text × Text)
  | 0, _, _, _, _, _ => none
  | fuel + 1, m, names, branches, parts, text =>
    let branch := side (parts.map Part.depth)
    match m.skip text with
    | [] => some (side (branch :: branches), names, [])
    | ')' :: rest => some (side (branch :: branches), names, ')' :: rest)
    | '|' :: rest => readBody fuel m names (branch :: branches) [] rest
    | '(' :: rest =>
      match readOpening m names rest with
      | none => none
      | some (.change m', rest) => readBody fuel m' names branches (.change :: parts) rest
      | some (.group m' names, rest) =>
        match readBody fuel m' names [] [] rest with
        | some (depth, names, ')' :: rest) =>
          readBody fuel m names branches (.item (depth + 1) :: parts) rest
        | _ => none
    | '[' :: rest =>
      match openSet? m rest with
      | none => none
      | some (start, rest) =>
        match readSet m fuel start none rest with
        | some (depth, rest) => readBody fuel m names branches (.item depth :: parts) rest
        | none => none
    | '\x7b' :: _ => none
    | c :: rest =>
      if "?*+".contains c then
        match parts with
        | .item depth :: parts =>
          let rest := if rest.head? = some '?' then rest.drop 1 else rest
          readBody fuel m names branches (.item (depth + 1) :: parts) rest
        | _ => none
      else
        match readAtom m (c :: rest) with
        | some (atom, rest) =>
          if m.admits atom then readBody fuel m names branches (.item 0 :: parts) rest else none
        | none => none

def depth? (text : Text) : Option Nat :=
  match readBody (text.length + 1) .initial [] [] [] text with
  | some (depth, _, []) => some depth
  | _ => none

def isAccepted (text : Text) : Bool :=
  (depth? text).any (· ≤ deepest)

end Outbox.Expression
