import Outbox.Toml.Scalar

/-!
The lines of a TOML document: headers of tables and pairs of a key and a value. Arrays and inline
tables may be nested to a fixed depth, and keys have a fixed number of parts.
-/

set_option autoImplicit false

namespace Outbox.Toml

/-- A table as it is built up. A table that has not been defined by a header or by braces is
implied; one that keys with dots imply is `dotted`. -/
inductive Item where
  | value (v : Toml)
  | table (implied dotted : Bool) (entries : List (Text × Item))
  /-- The tables of an array of tables, the last one first. -/
  | tables (elements : List (List (Text × Item)))

/-- The entries of a table that is built up. -/
abbrev Entries := List (Text × Item)

def item? (key : Text) : Entries → Option Item
  | [] => none
  | entry :: rest => if entry.1 = key then some entry.2 else item? key rest

def setItem (key : Text) (item : Item) : Entries → Entries
  | [] => [(key, item)]
  | entry :: rest =>
    if entry.1 = key then (key, item) :: rest else entry :: setItem key item rest

/-- Puts an item under a key with dots, given by the parts before the last and the last part. The
tables on the way have to be implied, and the last of them by dots; nothing is put in place of
what is there. -/
def insert (key : Text) (item : Item) : List Text → Entries → Option Entries
  | [], entries => if (item? key entries).isSome then none else some (entries ++ [(key, item)])
  | part :: rest, entries =>
    match item? part entries with
    | none =>
      (insert key item rest []).map fun inner => entries ++ [(part, .table true true inner)]
    | some (.table true dotted inner) =>
      if rest = [] && !dotted then none
      else
        (insert key item rest inner).map fun inner =>
          setItem part (.table true dotted inner) entries
    | some (.tables (last :: others)) =>
      if rest = [] then none
      else
        (insert key item rest last).map fun last =>
          setItem part (.tables (last :: others)) entries
    | some _ => none

mutual

def Item.toToml : Item → Toml
  | .value v => v
  | .table _ _ entries => .table (entriesToToml entries)
  | .tables elements => .array (elementsToToml elements).reverse

def entriesToToml : List (Text × Item) → List (Text × Toml)
  | [] => []
  | (key, item) :: rest => (key, item.toToml) :: entriesToToml rest

def elementsToToml : List (List (Text × Item)) → List Toml
  | [] => []
  | entries :: rest => .table (entriesToToml entries) :: elementsToToml rest

end

def maxKeyParts : Nat := 79

def maxDepth : Nat := 79

/-- A character of a key without quotes. -/
def isBare (c : Char) : Bool :=
  c.isAlphanum || c = '_' || c = '-'

/-- The part of a key that a text starts with and what follows it. -/
def keyPart? (text : Text) : Option (Text × Text) :=
  match text with
  | '"' :: rest => basic [] rest
  | '\'' :: rest => quotedLiteral [] rest
  | text =>
    let part := text.takeWhile isBare
    if part = [] then none else some (part, text.drop part.length)

/-- The parts of the key that a text starts with, at most `bound`, and what follows it. -/
def keyParts? : Nat → Text → Option (List Text × Text)
  | 0, _ => none
  | bound + 1, text => do
    let (part, rest) ← keyPart? (text.dropWhile isSpace)
    match rest.dropWhile isSpace with
    | '.' :: rest =>
      let (parts, rest) ← keyParts? bound rest
      return (part :: parts, rest)
    | rest => return ([part], rest)

def key? (text : Text) : Option (List Text × Text) :=
  keyParts? maxKeyParts text

/-- A text without the comment that it starts with; none if the comment holds a control. -/
def dropComment (text : Text) : Option Text :=
  match text with
  | '#' :: rest =>
    let after := rest.dropWhile isShown
    match after with
    | [] => some []
    | '\n' :: _ => some after
    | '\r' :: '\n' :: _ => some after
    | _ => none
  | text => some text

/-- A text without the blanks, line ends and comments at its start, at most `bound` of them. -/
def dropGaps : Nat → Text → Option Text
  | 0, text => some text
  | bound + 1, text =>
    match text with
    | ' ' :: rest => dropGaps bound rest
    | '\t' :: rest => dropGaps bound rest
    | '\n' :: rest => dropGaps bound rest
    | '\r' :: '\n' :: rest => dropGaps bound rest
    | '#' :: rest => (dropComment ('#' :: rest)).bind (dropGaps bound)
    | text => some text

def dropGap (text : Text) : Option Text :=
  dropGaps text.length text

/-- The items of an array, from behind the bracket or a comma on, and what follows the closing
bracket; at most `bound` items. -/
def items? (value : Text → Option (Toml × Text)) : Nat → Text → Option (List Toml × Text)
  | 0, _ => none
  | bound + 1, text => do
    match ← dropGap text with
    | ']' :: rest => return ([], rest)
    | text =>
      let (item, rest) ← value text
      match ← dropGap rest with
      | ',' :: rest =>
        let (items, rest) ← items? value bound rest
        return (item :: items, rest)
      | ']' :: rest => return ([item], rest)
      | _ => none

def pair? (value : Text → Option (Toml × Text)) (text : Text) :
    Option ((List Text × Toml) × Text) := do
  let (key, rest) ← key? text
  match rest with
  | '=' :: rest =>
    let (v, rest) ← value (rest.dropWhile isSpace)
    return ((key, v), rest)
  | _ => none

def insertPair (entries : Entries) (key : List Text) (v : Toml) : Option Entries :=
  match key.reverse with
  | [] => none
  | last :: before => insert last (.value v) before.reverse entries

/-- The entries of an inline table, from a key on, and what follows the closing brace; at most
`bound` pairs. -/
def inlinePairs? (value : Text → Option (Toml × Text)) : Nat → Entries → Text →
    Option (Entries × Text)
  | 0, _, _ => none
  | bound + 1, entries, text => do
    let ((key, v), rest) ← pair? value text
    let entries ← insertPair entries key v
    match rest.dropWhile isSpace with
    | ',' :: rest => inlinePairs? value bound entries rest
    | '\x7d' :: rest => return (entries, rest)
    | _ => none

/-- The value that a text starts with, of arrays and inline tables at most `depth` deep, and what
follows it. -/
def value? : Nat → Text → Option (Toml × Text)
  | depth, text =>
    match text, depth with
    | '"' :: _, _ => (string? text).map fun read => (.string read.1, read.2)
    | '\'' :: _, _ => (string? text).map fun read => (.string read.1, read.2)
    | '[' :: rest, depth + 1 =>
      (items? (value? depth) text.length rest).map fun read => (.array read.1, read.2)
    | '\x7b' :: rest, depth + 1 =>
      match rest.dropWhile isSpace with
      | '\x7d' :: rest => some (.table [], rest)
      | rest =>
        (inlinePairs? (value? depth) text.length [] rest).map fun read =>
          (.table (entriesToToml read.1), read.2)
    | text, _ => plain? text

inductive Line where
  | header (key : List Text)
  | arrayHeader (key : List Text)
  | pair (key : List Text) (value : Toml)

/-- What follows the end of a line, which may have a comment. -/
def endLine? (text : Text) : Option Text :=
  match dropComment (text.dropWhile isSpace) with
  | some [] => some []
  | some ('\n' :: rest) => some rest
  | some ('\r' :: '\n' :: rest) => some rest
  | _ => none

def line? (text : Text) : Option (Line × Text) :=
  match text with
  | '[' :: '[' :: rest => do
    match ← key? rest with
    | (key, ']' :: ']' :: rest) => return (.arrayHeader key, ← endLine? rest)
    | _ => none
  | '[' :: rest => do
    match ← key? rest with
    | (key, ']' :: rest) => return (.header key, ← endLine? rest)
    | _ => none
  | text => do
    let ((key, v), rest) ← pair? (value? maxDepth) text
    return (.pair key v, ← endLine? rest)

/-- All lines of a document, at most `bound`. -/
def lines? : Nat → Text → Option (List Line)
  | 0, _ => none
  | bound + 1, text => do
    match ← dropGap text with
    | [] => return []
    | text =>
      let (line, rest) ← line? text
      return line :: (← lines? bound rest)

end Outbox.Toml
