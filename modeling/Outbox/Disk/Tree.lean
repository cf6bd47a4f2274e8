import Outbox.Disk.Operations

/-!
A fresh disk, and all that is below a directory as a list.
-/

set_option autoImplicit false

namespace Outbox.Disk

/-- A disk with nothing but a start directory and the full device. -/
def fresh (start : Name) : Disk :=
  { nodes := [(["dev".toList], .dir), (["dev".toList, "full".toList], .full), ([start], .dir)]
    contents := []
    start := [start]
    faults := []
    listing := .byName }

inductive Shown where
  | dir
  | file (bytes : Bytes)
  | link (target : Path)
  | device

def shown (d : Disk) : Node → Shown
  | .dir => .dir
  | .file id => .file (d.content id)
  | .link target => .link target
  | .full => .device

/-- A node below a directory as it is listed: its path from there, a slash after the name of a
directory and an at sign after the name of a link. -/
def entryText (names : List Name) (node : Node) : Text :=
  match node with
  | .dir => Path.glue names ++ ['/']
  | .link _ => Path.glue names ++ ['@']
  | _ => Path.glue names

/-- All that is below a directory, in the order of the listed names. -/
def tree (d : Disk) (dir : Location) : List (Text × Shown) :=
  let below := d.nodes.filterMap fun entry =>
    if dir.isPrefixOf entry.1 && dir ≠ entry.1 then
      some (entryText (entry.1.drop dir.length) entry.2, d.shown entry.2)
    else none
  below.mergeSort fun a b => Text.atMost a.1 b.1

inductive Edit where
  | write (path : Path) (bytes : Bytes)
  | mkdir (path : Path)
  | symlink (path target : Path)
  | remove (path : Path)
  | rename (path target : Path)
  deriving Repr

/-- The disk after an edit; an edit that fails changes nothing more. -/
def edit (d : Disk) : Edit → Disk
  | .write p bytes => (d.attempt (writeFile p bytes)).2
  | .mkdir p => (d.mkdirs p).2
  | .symlink p target => (d.attempt (Disk.symlink p target)).2
  | .remove p => (d.attempt (removeAll p)).2
  | .rename p q => (d.attempt (Disk.rename p q)).2

end Outbox.Disk
