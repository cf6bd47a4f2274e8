import Outbox.Disk.Basic

/-!
From paths to locations. A path is walked from the root or the start directory, name by name,
links on the way being followed, at most forty of them.
-/

set_option autoImplicit false

namespace Outbox

/-- A path as it is walked: where it starts, the names to take, and whether a slash at the end
asks for a directory. -/
structure Route where
  start : Location
  names : List Name
  slash : Bool
  deriving DecidableEq, Repr

/-- Where a walk ends that leaves the last name alone. -/
inductive Goal where
  /-- The last name, in an existing directory. -/
  | entry (dir : Location) (name : Name)
  /-- A directory reached without a last name, by `/`, `.` or `..`. -/
  | here (loc : Location)
  deriving DecidableEq, Repr

inductive Stop where
  | goal (goal : Goal)
  /-- A link on the way, the directory that holds it, and the names that are left. -/
  | link (dir : Location) (target : Path) (rest : List Name)
  deriving DecidableEq, Repr

def maxNameSize : Nat := 255

def maxPathSize : Nat := 4095

def maxLinks : Nat := 40

namespace Disk

def routeFrom (dir : Location) (p : Path) : Route :=
  { start := if p.isAbsolute then [] else dir
    names := (Path.pieces p.chars).filter (· ≠ [])
    slash := p.chars.getLast? = some '/' }

/-- The route of a path, unless the path cannot be one. -/
def route (d : Disk) (p : Path) : Except IoError Route :=
  if p.chars.contains '\x00' then .error .nulInPath
  else if p.chars = [] then .error (.os .notFound)
  else if maxPathSize < Utf8.size p.chars then .error (.os .nameTooLong)
  else .ok (routeFrom d.start p)

/-- Walks down from a directory, to the last name or to the first link on the way. -/
def descend (d : Disk) : Location → List Name → Except IoError Stop
  | loc, [] => .ok (.goal (.here loc))
  | loc, name :: rest =>
    if d.node? loc ≠ some .dir then .error (.os .notDirectory)
    else if name = ['.'] then descend d loc rest
    else if name = ['.', '.'] then descend d loc.dropLast rest
    else if rest = [] then .ok (.goal (.entry loc name))
    else if maxNameSize < Utf8.size name then .error (.os .nameTooLong)
    else
      match d.node? (loc ++ [name]) with
      | none => .error (.os .notFound)
      | some (.link target) => .ok (.link loc target rest)
      | some _ => descend d (loc ++ [name]) rest

/-- Walks to the last name of a route, following links on the way; also the number of links that
may still be followed. -/
def approach (d : Disk) : Nat → Location → List Name → Except IoError (Goal × Nat)
  | links, loc, names =>
    match d.descend loc names, links with
    | .error e, _ => .error e
    | .ok (.goal goal), links => .ok (goal, links)
    | .ok (.link _ _ _), 0 => .error (.os .linkLoop)
    | .ok (.link dir target rest), links + 1 =>
      let onward := routeFrom dir target
      approach d links onward.start (onward.names ++ rest)

/-- The goal of a path, the link in the last place not being followed, and whether the path ends
in a slash. -/
def goal (d : Disk) (p : Path) : Except IoError (Goal × Bool) :=
  match d.route p with
  | .error e => .error e
  | .ok r =>
    match d.approach maxLinks r.start r.names with
    | .error e => .error e
    | .ok (goal, _) => .ok (goal, r.slash)

/-- The entry of a name in a directory, unless the name is too long. -/
def nodeIn? (d : Disk) (dir : Location) (name : Name) : Except IoError (Option Node) :=
  if maxNameSize < Utf8.size name then .error (.os .nameTooLong)
  else .ok (d.node? (dir ++ [name]))

/-- What is found at the end of a walk that follows links in the last place too. -/
inductive Found where
  | node (loc : Location) (node : Node)
  | free (loc : Location)
  /-- A path that names its end as a directory, by a slash or by `.` or `..`: what is there. -/
  | asDir (loc : Location) (node : Option Node)
  deriving DecidableEq, Repr

/-- Walks a route to its end, following links in the last place too. A slash at the end of a
creating walk (`creating`) stops it before its last name is looked at. -/
def pursueFrom (d : Disk) (creating : Bool) : Nat → Nat → Route → Except IoError Found
  | 0, _, _ => .error (.os .linkLoop)
  | turns + 1, links, r =>
    match d.approach links r.start r.names with
    | .error e => .error e
    | .ok (.here loc, _) => .ok (.asDir loc (d.node? loc))
    | .ok (.entry dir name, links) =>
      if creating && r.slash then .error (.os .isDirectory)
      else
        match d.nodeIn? dir name with
        | .error e => .error e
        | .ok (some (.link target)) =>
          match links with
          | 0 => .error (.os .linkLoop)
          | links + 1 =>
            let onward := routeFrom dir target
            pursueFrom d creating turns links { onward with slash := onward.slash || r.slash }
        | .ok (some node) =>
          if r.slash then .ok (.asDir (dir ++ [name]) (some node))
          else .ok (.node (dir ++ [name]) node)
        | .ok none =>
          if r.slash then .ok (.asDir (dir ++ [name]) none) else .ok (.free (dir ++ [name]))

def pursue (d : Disk) (creating : Bool) (p : Path) : Except IoError Found :=
  match d.route p with
  | .error e => .error e
  | .ok r => d.pursueFrom creating (maxLinks + 1) maxLinks r

/-- The existing entry that a path leads to. -/
def find (d : Disk) (p : Path) : Except IoError (Location × Node) :=
  match d.pursue false p with
  | .error e => .error e
  | .ok (.node loc node) => .ok (loc, node)
  | .ok (.free _) => .error (.os .notFound)
  | .ok (.asDir loc (some .dir)) => .ok (loc, .dir)
  | .ok (.asDir _ (some _)) => .error (.os .notDirectory)
  | .ok (.asDir _ none) => .error (.os .notFound)

def exists? (d : Disk) (p : Path) : Bool :=
  match d.find p with
  | .ok _ => true
  | .error _ => false

def isDir (d : Disk) (p : Path) : Bool :=
  match d.find p with
  | .ok (_, .dir) => true
  | _ => false

end Disk

end Outbox
