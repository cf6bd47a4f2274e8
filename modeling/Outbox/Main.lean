import Outbox.Log.Line
import Outbox.Program
import Std.Time.DateTime.Timestamp

/-!
The command of the program. The logic works on a `World`, so this layer brings the directories
that a run works with into the disk of one before the run, and carries what changes on that disk
out to the machine after every line of the input.
-/

set_option autoImplicit false

namespace Outbox.Machine

/-- The names on the way to an absolute path. -/
def namesOf (path : String) : List Name :=
  (Path.pieces path.toList).filter (· ≠ [])

def placeOf (loc : Location) : String :=
  String.ofList ('/' :: Path.glue loc)

/-- What the machine holds under a path, links not being followed. -/
def kindOf? (place : String) : IO (Option IO.FS.FileType) := do
  let here := (← IO.currentDir) / place
  try
    return some (← here.symlinkMetadata).type
  catch _ => return none

def namesIn (place : String) : IO (List String) := do
  let here := (← IO.currentDir) / place
  return ((← here.readDir).map (·.fileName)).toList

/-- Brings what lies on the way to a location into a disk. The content of a file comes along if
`filled`. Gives the location that is reached. -/
partial def bring (filled : Bool) (loc : Location) (names : List Name) (d : Disk) :
    IO (Location × Disk) := do
  match names with
  | [] => return (loc, d)
  | ['.'] :: rest => bring filled loc rest d
  | ['.', '.'] :: rest => bring filled loc.dropLast rest d
  | name :: rest =>
    let here := loc ++ [name]
    if (d.node? here).any (· = .dir) then bring filled here rest d
    else
      match ← kindOf? (placeOf here) with
      | some .dir => bring filled here rest (d.put here .dir)
      | some .file =>
        if (d.node? here).isSome then return (here, d)
        let bytes ← if filled then (·.toList) <$> IO.FS.readBinFile (placeOf here) else pure []
        let (d, id) := d.putNewFile here
        return (here, d.setContent id bytes)
      | some .symlink =>
        let target := toString (← IO.FS.realPath (placeOf here))
        bring filled [] (namesOf target ++ rest) (d.put here (.link (.ofString target)))
      | _ => return (here, if placeOf here = "/dev/full" then d.put here .full else d)

/-- Brings what lies on the way to a path into a disk, and if a directory is reached what lies
in it. -/
def bringPath (filled : Bool) (p : Path) (d : Disk) : IO Disk := do
  let (loc, d) ← bring filled (if p.isAbsolute then [] else d.start) (namesOf p.text) d
  if d.node? loc = some .dir && filled then
    (← namesIn (placeOf loc)).foldlM
      (fun d name => return (← bring filled loc [name.toList] d).2) d
  else return d

/-- A disk with the configuration, and with the directories that a run with it works in. -/
def load (config : Path) : IO Disk := do
  let start := namesOf (toString (← IO.currentDir))
  let empty : Disk :=
    { nodes := [], contents := [], start, faults := [], listing := .byName }
  let d ← bring true [] start empty
  let d ← bringPath true config d.2
  match Config.ofFile config d with
  | .error _ => return d
  | .ok c =>
    let connection := Connection.ofText c.bundle.settings.connection
    let d ← bringPath true (connection.localDir.getD Settings.defaultBufferDir) d
    let d ← match c.log.output with
      | .file path => bringPath false path d
      | .standardError => pure d
    match c.bundle.backend.destination with
    | .ok (.store s) =>
      match (s.configure connection).2.keyFor ⟨c.bundle.settings.baseName⟩ with
      | .ok key => bringPath false (Shelf.pathOf key) d
      | .error _ => return d
    | _ => bringPath false ⟨connection.rest⟩ d

/-- Carries what differs between two states of a disk out to the machine: directories that are
new, files that moved, what was written, and what is gone. -/
def carryOut (old new : Disk) : IO Unit := do
  for (loc, node) in new.nodes do
    if node = .dir && old.node? loc ≠ some .dir then IO.FS.createDir (placeOf loc)
  let mut names : List (Location × Nat) := []
  for (loc, node) in old.nodes do
    if let .file id := node then
      let moved := new.nodes.find? fun entry => entry.2 = .file id
      match moved with
      | some (target, _) =>
        if target ≠ loc then IO.FS.rename (placeOf loc) (placeOf target)
        names := (target, id) :: names
      | none => if new.node? loc = none then IO.FS.removeFile (placeOf loc)
  for (loc, node) in new.nodes do
    if let .file id := node then
      if names.contains (loc, id) then
        let written := (old.content id).length
        let bytes := (new.content id).drop written
        if bytes ≠ [] then
          let handle ← IO.FS.Handle.mk (placeOf loc) .append
          handle.write ⟨bytes.toArray⟩
          handle.flush
      else IO.FS.writeBinFile (placeOf loc) ⟨(new.content id).toArray⟩

def readClock : IO Timestamp := do
  let nanos := (← Std.Time.Timestamp.now).toNanosecondsSinceUnixEpoch.val
  return { seconds := nanos / 1000000000, nanos := (nanos % 1000000000).toNat }

def writeLog (l : Logging) (w : World) (events : List Event) : IO Unit := do
  let lines := (l.select events).map fun e => String.ofList (e.line l.format w.wall) ++ "\n"
  if lines ≠ [] then
    match l.output with
    | .standardError => IO.eprint (String.join lines)
    | .file path =>
      let handle ← IO.FS.Handle.mk path.text .append
      handle.putStr (String.join lines)
      handle.flush

/-- Waits for a line of the input, a number of times for ten milliseconds at most. -/
def await {α : Type} (task : Task α) : Nat → IO Bool
  | 0 => IO.hasFinished task
  | turns + 1 => do
    if ← IO.hasFinished task then return true
    IO.sleep 10
    await task turns

partial def readLine (input : IO.FS.Stream) (before : ByteArray) : IO ByteArray := do
  let byte ← input.read 1
  let line := before ++ byte
  if byte.isEmpty || byte.data.contains Reader.lineFeed then return line
  else readLine input line

/-- Reads the next line of the input, in a task of its own. It is empty at the end. -/
def readNext : IO (Task (Except IO.Error ByteArray)) := do
  let input ← IO.getStdin
  IO.asTask (readLine input .empty)

/-- Lets time pass and takes in a line of the input if there is one; also whether there was. -/
def turn (origin : Nat) (task : Task (Except IO.Error ByteArray)) (p : Program) (w : World) :
    IO (Bool × Program × World) := do
  let arrived ← await task 50
  let w := { w with wall := ← readClock }
  let now := (← IO.monoNanosNow) - origin
  let (p, w) := p.drive (·.pass (now - w.now)) w
  if arrived then
    let (p, w) :=
      match task.get with
      | .ok bytes =>
        if bytes.isEmpty then p.drive Service.endInput w else p.drive (·.feed bytes.toList) w
      | .error e => p.drive (·.failInput (.other (toString e))) w
    return (true, p, w)
  else return (false, p, w)

/-- Serves until the program ends. The running time counts from `origin`. -/
partial def serve (origin : Nat) (task : Task (Except IO.Error ByteArray)) (p : Program)
    (w : World) (saved : Disk) : IO Ending := do
  carryOut saved w.disk
  writeLog p.logging w w.log
  let w := { w with log := [] }
  match p.ending? with
  | some ending => return ending
  | none =>
    let (arrived, p, w') ← turn origin task p w
    let task ← if arrived then readNext else pure task
    serve origin task p w' w.disk

def run (config : Path) (logFilter : Option Text) : IO Ending := do
  let disk ← load config
  let w : World := { disk, wall := ← readClock, now := 0, log := [] }
  match Program.start config logFilter w with
  | (.error ending, w) =>
    carryOut disk w.disk
    return ending
  | (.ok p, w) => serve (← IO.monoNanosNow) (← readNext) p w disk

end Outbox.Machine

open Outbox in
def main (arguments : List String) : IO UInt32 := do
  let ending ←
    match Invocation.ofArguments? (arguments.map String.toList) with
    | none => pure .misused
    | some .showHelp => pure (.answered Invocation.helpText)
    | some .showVersion => pure (.answered Invocation.versionText)
    | some (.serve config logFilter) => Machine.run config logFilter
  IO.print ending.output
  IO.eprint ending.complaint
  return UInt32.ofNat ending.code
