import Outbox.Disk.Resolve

/-!
The operations of a disk. Each takes a disk and gives its result with the disk after it; an
operation that fails gives only the reason, for it has changed nothing. The one exception is
`mkdirs`, which leaves the directories it has made before the failure.
-/

set_option autoImplicit false

namespace Outbox

inductive Handle where
  | file (id : Nat)
  | full
  | dir
  deriving DecidableEq, Repr

namespace Disk

def writable : Node → Except IoError Handle
  | .file id => .ok (.file id)
  | .full => .ok .full
  | .dir => .error (.os .isDirectory)
  | .link _ => .error (.os .linkLoop)

/-- Opens the file of a path for writing, making it if there is none. -/
def openForWriting (p : Path) (d : Disk) : Except IoError (Handle × Disk) :=
  match d.pursue true p with
  | .error e => .error e
  | .ok (.asDir _ _) => .error (.os .isDirectory)
  | .ok (.node _ node) => (writable node).map fun handle => (handle, d)
  | .ok (.free loc) => let (d, id) := d.putNewFile loc; .ok (.file id, d)

def openAppend (p : Path) (d : Disk) : Except IoError (Handle × Disk) :=
  openForWriting p d

/-- Opens an empty file for writing: a new one, or one whose content is dropped. -/
def create (p : Path) (d : Disk) : Except IoError (Handle × Disk) :=
  match openForWriting p d with
  | .error e => .error e
  | .ok (.file id, d) => .ok (.file id, d.setContent id [])
  | .ok (handle, d) => .ok (handle, d)

/-- The location of a name that must be free, the link in the last place not being followed. -/
def freeSpot (p : Path) (d : Disk) : Except IoError Location :=
  match d.goal p with
  | .error e => .error e
  | .ok (.here _, _) => .error (.os .exists)
  | .ok (.entry dir name, _) =>
    match d.nodeIn? dir name with
    | .error e => .error e
    | .ok (some _) => .error (.os .exists)
    | .ok none => .ok (dir ++ [name])

/-- Makes a file that must not exist yet. -/
def createNew (p : Path) (d : Disk) : Except IoError (Handle × Disk) :=
  match freeSpot p d with
  | .error e => .error e
  | .ok loc =>
    if p.chars.getLast? = some '/' then .error (.os .isDirectory)
    else let (d, id) := d.putNewFile loc; .ok (.file id, d)

def mkdir (p : Path) (d : Disk) : Except IoError (Unit × Disk) :=
  match freeSpot p d with
  | .error e => .error e
  | .ok loc => .ok ((), d.put loc .dir)

def symlink (p target : Path) (d : Disk) : Except IoError (Unit × Disk) :=
  match freeSpot p d with
  | .error e => .error e
  | .ok loc => .ok ((), d.put loc (.link target))

def openRead (p : Path) (d : Disk) : Except IoError (Handle × Disk) :=
  match d.find p with
  | .error e => .error e
  | .ok (_, .file id) => .ok (.file id, d)
  | .ok (_, .dir) => .ok (.dir, d)
  | .ok (_, .full) => .ok (.full, d)
  | .ok (_, .link _) => .error (.os .linkLoop)

/-- Appends bytes to an open file. The full device takes the empty string only. -/
def write (handle : Handle) (bytes : Bytes) (d : Disk) : Except IoError (Unit × Disk) :=
  match handle with
  | .file id => .ok ((), d.setContent id (d.content id ++ bytes))
  | .full => if bytes = [] then .ok ((), d) else .error (.os .noSpace)
  | .dir => .error (.os .isDirectory)

def read (handle : Handle) (d : Disk) : Except IoError (Bytes × Disk) :=
  match handle with
  | .file id => .ok (d.content id, d)
  | .full => .ok ([], d)
  | .dir => .error (.os .isDirectory)

def sync (handle : Handle) (d : Disk) : Except IoError (Unit × Disk) :=
  match handle with
  | .full => .error (.os .invalidArgument)
  | _ => .ok ((), d)

def length (handle : Handle) (d : Disk) : Except IoError (Nat × Disk) :=
  match handle with
  | .file id => .ok ((d.content id).length, d)
  | _ => .ok (0, d)

/-- Takes away the name of a file, a link or a device. -/
def remove (p : Path) (d : Disk) : Except IoError (Unit × Disk) :=
  match d.goal p with
  | .error e => .error e
  | .ok (.here _, _) => .error (.os .isDirectory)
  | .ok (.entry dir name, slash) =>
    match d.nodeIn? dir name with
    | .error e => .error e
    | .ok none => .error (.os .notFound)
    | .ok (some .dir) => .error (.os .isDirectory)
    | .ok (some _) =>
      if slash then .error (.os .notDirectory) else .ok ((), d.take (dir ++ [name]))

/-- Whether an entry may take the place of another: a directory only that of an empty directory,
anything else only that of what is no directory. -/
def mayReplace (d : Disk) (moved : Node) (place : Location) (taken : Node) : Except IoError Unit :=
  match moved, taken with
  | .dir, .dir => if d.children place = [] then .ok () else .error (.os .notEmpty)
  | .dir, _ => .error (.os .notDirectory)
  | _, .dir => .error (.os .isDirectory)
  | _, _ => .ok ()

/-- Moves the entry `moved` from one location to another that is free or holds `taken`. -/
def moveOnto (d : Disk) (old new : Location) (moved : Node) (taken : Option Node) (slash : Bool) :
    Except IoError (Unit × Disk) :=
  if moved ≠ .dir && slash then .error (.os .notDirectory)
  else if old ≠ new && old.isPrefixOf new then .error (.os .invalidArgument)
  else if old ≠ new && new.isPrefixOf old then .error (.os .notEmpty)
  else if old = new then .ok ((), d)
  else
    match taken with
    | none => .ok ((), d.move old new)
    | some node => (d.mayReplace moved new node).map fun _ => ((), d.move old new)

/-- Gives an entry another name, which may be in another directory. What had that name before is
gone. Links in the last place are not followed. -/
def rename (p q : Path) (d : Disk) : Except IoError (Unit × Disk) :=
  match d.goal p with
  | .error e => .error e
  | .ok (old, oldSlash) =>
    match d.goal q with
    | .error e => .error e
    | .ok (new, newSlash) =>
      match old, new with
      | .entry oldDir oldName, .entry newDir newName =>
        match d.nodeIn? oldDir oldName with
        | .error e => .error e
        | .ok none => .error (.os .notFound)
        | .ok (some moved) =>
          match d.nodeIn? newDir newName with
          | .error e => .error e
          | .ok taken =>
            d.moveOnto (oldDir ++ [oldName]) (newDir ++ [newName]) moved taken
              (oldSlash || newSlash)
      | _, _ => .error (.os .busy)

/-- The entries of a directory, given in the order in which they were named, as a disk lists
them. -/
def inListingOrder (d : Disk) (entries : List (Name × Node)) : List (Name × Node) :=
  match d.listing with
  | .byName => entries.mergeSort fun a b => Text.atMost a.1 b.1
  | .newestFirst => entries.reverse

/-- The names in the directory that a path leads to, as the disk lists them, with what they
are. -/
def list (p : Path) (d : Disk) : Except IoError (List (Name × Node) × Disk) :=
  match d.find p with
  | .error e => .error e
  | .ok (loc, .dir) => .ok (d.inListingOrder (d.children loc), d)
  | .ok (_, _) => .error (.os .notDirectory)

def writeFile (p : Path) (bytes : Bytes) (d : Disk) : Except IoError (Unit × Disk) :=
  match create p d with
  | .error e => .error e
  | .ok (handle, d) => write handle bytes d

def readFile (p : Path) (d : Disk) : Except IoError (Bytes × Disk) :=
  match openRead p d with
  | .error e => .error e
  | .ok (handle, d) => read handle d

/-- Takes away what a path names, a directory with all below it. -/
def removeAll (p : Path) (d : Disk) : Except IoError (Unit × Disk) :=
  match d.goal p with
  | .error e => .error e
  | .ok (.here _, _) => .error (.os .invalidArgument)
  | .ok (.entry dir name, _) =>
    match d.nodeIn? dir name with
    | .error e => .error e
    | .ok none => .error (.os .notFound)
    | .ok (some _) => .ok ((), d.takeAll (dir ++ [name]))

def locate? (d : Disk) (p : Path) : Option Location :=
  match d.find p with
  | .ok (loc, _) => some loc
  | .error _ => none

/-- Whether two paths lead to the same place; if one of them leads nowhere, whether they are the
same path. -/
def sameDir (d : Disk) (p q : Path) : Bool :=
  match d.locate? p, d.locate? q with
  | some a, some b => a = b
  | _, _ => p.same q

/-- The directories to make for a path, the innermost first: those found missing when making
them from the inside out, up to one that could be made or is there. -/
def missing (d : Disk) : List Path → Except IoError (List Path) × Disk
  | [] => (.ok [], d)
  | p :: outer =>
    if p.chars = [] then (.ok [], d)
    else
      match d.attempt (mkdir p) with
      | (.ok (), d) => (.ok [], d)
      | (.error (.os .notFound), d) =>
        match missing d outer with
        | (.ok rest, d) => (.ok (p :: rest), d)
        | (.error e, d) => (.error e, d)
      | (.error (.os .exists), d) =>
        if d.isDir p then (.ok [], d) else (.error (.os .exists), d)
      | (.error e, d) => (.error e, d)

/-- Makes directories in order, those that are there being left alone. -/
def mkdirEach (d : Disk) : List Path → Except IoError Unit × Disk
  | [] => (.ok (), d)
  | p :: rest =>
    match d.attempt (mkdir p) with
    | (.ok (), d) => mkdirEach d rest
    | (.error (.os .exists), d) =>
      if d.isDir p then mkdirEach d rest else (.error (.os .exists), d)
    | (.error e, d) => (.error e, d)

/-- Makes a directory and those above it that are missing. -/
def mkdirs (d : Disk) (p : Path) : Except IoError Unit × Disk :=
  match d.missing p.ancestors with
  | (.ok inner, d) => d.mkdirEach inner.reverse
  | (.error e, d) => (.error e, d)

end Disk

end Outbox
