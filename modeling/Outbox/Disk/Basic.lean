import Outbox.Disk.Error

/-!
A disk: a tree of directories, files, symbolic links and one device that is always full.

Entries are found by their location, the names from the root down. A file's content is kept apart
from the entries that name it, by a number of its own, so that an open file outlives a rename or
a removal of its entry.
-/

set_option autoImplicit false

namespace Outbox

/-- A place in the tree: the names that lead to it from the root. -/
abbrev Location := List Name

inductive Node where
  | dir
  /-- A regular file with the number of its content. -/
  | file (id : Nat)
  | link (target : Path)
  /-- A device that takes no bytes. -/
  | full
  deriving DecidableEq, Repr

inductive ListingOrder where
  | byName
  | newestFirst
  deriving DecidableEq, Repr

structure Disk where
  /-- Every entry but the root, each location once, in the order in which they were named. -/
  nodes : List (Location × Node)
  /-- The contents of all files there have been, by number. -/
  contents : List Bytes
  /-- The directory from which relative paths start. -/
  start : Location
  /-- What becomes of the coming operations: a failure that is due, or `none` for a free run.
  When the list has ended all operations run free. -/
  faults : List (Option OsError)
  listing : ListingOrder
  deriving Repr

namespace Disk

/-- The entry at a location. The root is a directory. -/
def node? (d : Disk) (loc : Location) : Option Node :=
  if loc = [] then some .dir else d.nodes.lookup loc

def content (d : Disk) (id : Nat) : Bytes :=
  d.contents.getD id []

def fileAt? (d : Disk) (loc : Location) : Option Bytes :=
  match d.node? loc with
  | some (.file id) => some (d.content id)
  | _ => none

/-- Puts an entry at a location, in place of what is there. -/
def put (d : Disk) (loc : Location) (node : Node) : Disk :=
  { d with nodes := d.nodes.filter (fun entry => entry.1 ≠ loc) ++ [(loc, node)] }

def take (d : Disk) (loc : Location) : Disk :=
  { d with nodes := d.nodes.filter fun entry => entry.1 ≠ loc }

/-- Takes the entry at a location away, and all below it. -/
def takeAll (d : Disk) (loc : Location) : Disk :=
  { d with nodes := d.nodes.filter fun entry => !loc.isPrefixOf entry.1 }

/-- Moves the entry at one location, and all below it, to another. -/
def move (d : Disk) (old new : Location) : Disk :=
  let nodes := (d.take new).nodes
  let moved := nodes.filter fun entry => old.isPrefixOf entry.1
  { d with nodes := nodes.filter (fun entry => !old.isPrefixOf entry.1)
      ++ moved.map fun entry => (new ++ entry.1.drop old.length, entry.2) }

def setContent (d : Disk) (id : Nat) (bytes : Bytes) : Disk :=
  { d with contents := d.contents.set id bytes }

def putNewFile (d : Disk) (loc : Location) : Disk × Nat :=
  ({ d.put loc (.file d.contents.length) with contents := d.contents ++ [[]] }, d.contents.length)

/-- The names in the directory at a location, with what they are. -/
def children (d : Disk) (loc : Location) : List (Name × Node) :=
  d.nodes.filterMap fun entry =>
    match entry.1.getLast? with
    | some name => if entry.1.dropLast = loc then some (name, entry.2) else none
    | none => none

/-- Runs one operation, unless a failure is due in its place. A failed operation leaves the disk
as it was. -/
def attempt {α : Type} (d : Disk) (operation : Disk → Except IoError (α × Disk)) :
    Except IoError α × Disk :=
  match d.faults with
  | some cause :: later => (.error (.os cause), { d with faults := later })
  | none :: later =>
    match operation { d with faults := later } with
    | .ok (a, d') => (.ok a, d')
    | .error e => (.error e, { d with faults := later })
  | [] =>
    match operation d with
    | .ok (a, d') => (.ok a, d')
    | .error e => (.error e, d)

end Disk

end Outbox
