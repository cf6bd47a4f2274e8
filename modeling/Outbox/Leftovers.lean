import Outbox.World

/-!
Rolled files that an earlier run has left in a directory.
-/

set_option autoImplicit false

namespace Outbox.Leftovers

/-- Whether an entry is a rolled file of a live file: a regular file whose name goes on after the
live file's name. -/
def isRolled (base : Name) (entry : Name × Node) : Bool :=
  match entry.2 with
  | .file _ => base.isPrefixOf entry.1 && base ≠ entry.1
  | _ => false

/-- The rolled files in a directory, as the disk lists them. -/
def scan (dir : Path) (base : Name) (d : Disk) : Except IoError (List Path × Disk) :=
  match Disk.list dir d with
  | .error e => .error e
  | .ok (entries, d) =>
    .ok ((entries.filter (isRolled base)).map fun entry => dir.join entry.1, d)

end Outbox.Leftovers
