import Outbox.Toml.Parser

/-!
TOML documents: lines put together to one table. A table is defined once, by a header, by braces
or by keys with dots; a table that is only implied may still be defined by a header.
-/

set_option autoImplicit false

namespace Outbox.Toml

/-- Changes the entries at a key of a header; tables that are missing on the way are implied, and
of an array of tables the last one is meant. -/
def updateAt (change : Entries → Option Entries) : List Text → Entries → Option Entries
  | [], entries => change entries
  | part :: rest, entries =>
    match item? part entries with
    | none =>
      (updateAt change rest []).map fun inner => entries ++ [(part, .table true false inner)]
    | some (.table implied dotted inner) =>
      (updateAt change rest inner).map fun inner =>
        setItem part (.table implied dotted inner) entries
    | some (.tables (last :: others)) =>
      (updateAt change rest last).map fun last => setItem part (.tables (last :: others)) entries
    | some _ => none

/-- Defines a table by its header. A table that has been implied before takes its place in the
order of entries now. -/
def define (key : Text) (entries : Entries) : Option Entries :=
  match item? key entries with
  | none => some (entries ++ [(key, .table false false [])])
  | some (.table true false inner) =>
    some (entries.filter (·.1 ≠ key) ++ [(key, .table false false inner)])
  | some _ => none

def addElement (key : Text) (entries : Entries) : Option Entries :=
  match item? key entries with
  | none => some (entries ++ [(key, .tables [[]])])
  | some (.tables elements) => some (setItem key (.tables ([] :: elements)) entries)
  | some _ => none

/-- Changes the entries at the parts of a key before the last, by way of its last part. -/
def updateParent (change : Text → Entries → Option Entries) (key : List Text) (entries : Entries) :
    Option Entries :=
  match key.reverse with
  | [] => none
  | last :: before => updateAt (change last) before.reverse entries

/-- Puts lines together; `here` is the key of the table that pairs belong to. -/
def assemble (here : List Text) (entries : Entries) : List Line → Option Entries
  | [] => some entries
  | .header key :: rest => do assemble key (← updateParent define key entries) rest
  | .arrayHeader key :: rest => do assemble key (← updateParent addElement key entries) rest
  | .pair key v :: rest => do
    assemble here (← updateAt (fun inner => insertPair inner key v) here entries) rest

/-- The table that a document writes. A byte order mark at its start counts for nothing. -/
def ofText (text : Text) : Option (List (Text × Toml)) := do
  let text := if text.head? = some '\uFEFF' then text.drop 1 else text
  return entriesToToml (← assemble [] [] (← lines? (text.length + 1) text))

end Outbox.Toml
