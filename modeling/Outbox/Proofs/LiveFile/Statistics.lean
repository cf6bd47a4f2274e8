import Mathlib.Algebra.GroupWithZero.Nat
import Outbox.Proofs.LiveFile.Search
import Outbox.Proofs.Sink.Opening

/-!
# What a live file counts

The length of a live file is kept three times: on the disk, in the live file and among its counters.
Along any use of the live file, with others leaving it alone, the three are the same, and the other
counters are the sums and the numbers of what was done since it was opened (`Usage.Agrees`).

An operation that fails changes none of them, as long as it fails before it has had an effect. What
a rollover that succeeds relies on is that nothing is left at the live file's path once the content
has its new name (`Leaves`). That is so for every pattern that puts no slash into the name. With a
slash the new name can be the old one in other words, and the rename does nothing; the search for a
free name finds it out, unless it gives up on too many links first.
-/

set_option autoImplicit false

namespace Outbox

namespace Disk

variable {d d' : Disk} {p q : Path} {dir : Location} {name : Name} {handle : Handle}

def lengthAt? (d : Disk) (p : Path) : Option Nat :=
  match d.find p with
  | .ok (_, .file id) => some (d.content id).length
  | .ok (_, .full) => some 0
  | _ => none

/-- A search for a place to write that ends comes to the same as one that only looks. -/
theorem pursueFrom_of_creating {turns links : Nat} {r : Route} {found : Found}
    (h : d.pursueFrom true turns links r = .ok found) :
    d.pursueFrom false turns links r = .ok found := by
  induction turns generalizing links r with
  | zero => exact absurd h (by simp [pursueFrom])
  | succ turns ih =>
    cases happroach : d.approach links r.start r.names with
    | error e => simp [pursueFrom, happroach] at h
    | ok result =>
      obtain ⟨_ | loc, left⟩ := result
      · next dir name =>
        cases hslash : r.slash with
        | true => simp [pursueFrom, happroach, hslash] at h
        | false =>
          rw [pursueFrom_entry turns (by rw [hslash, Bool.and_false]) happroach] at h
          rw [pursueFrom_entry turns (by rw [hslash, Bool.and_false]) happroach]
          rcases hentry : d.nodeIn? dir name with e | _ | node
          · simp [hentry] at h
          · simpa only [hentry] using h
          · cases node with
            | link target =>
              cases left with
              | zero => simp [hentry] at h
              | succ left =>
                simp only [hentry] at h ⊢
                exact ih h
            | dir => simpa only [hentry] using h
            | file id => simpa only [hentry] using h
            | full => simpa only [hentry] using h
      · simpa only [pursueFrom, happroach] using h

theorem find_of_creating {loc : Location} {node : Node}
    (h : d.pursue true p = .ok (.node loc node)) : d.find p = .ok (loc, node) := by
  have hlook : d.pursue false p = .ok (.node loc node) := by
    rw [pursue] at h ⊢
    cases hroute : d.route p with
    | error e => simp [hroute] at h
    | ok r =>
      simp only [hroute] at h ⊢
      exact pursueFrom_of_creating h
  rw [find, hlook]

theorem find_of_creating_free {loc : Location} (h : d.pursue true p = .ok (.free loc)) :
    d.find p = .error (.os .notFound) := by
  have hlook : d.pursue false p = .ok (.free loc) := by
    rw [pursue] at h ⊢
    cases hroute : d.route p with
    | error e => simp [hroute] at h
    | ok r =>
      simp only [hroute] at h ⊢
      exact pursueFrom_of_creating h
  rw [find, hlook]

theorem Alike.lengthAt? (alike : d.Alike d') (contents : d'.contents = d.contents) (p : Path) :
    d'.lengthAt? p = d.lengthAt? p := by
  have hcontent : ∀ id, d'.content id = d.content id := by
    intro id
    rw [content, content, contents]
  simp only [Disk.lengthAt?, find, alike.pursue, hcontent]

/-- A file that is opened for writing has the length that was there, or is new and empty. -/
theorem lengthAt?_of_openForWriting (h : openForWriting p d = .ok (handle, d')) :
    (handle.bytes d').length = (d.lengthAt? p).getD 0 := by
  rw [openForWriting] at h
  cases hpursue : d.pursue true p with
  | error e => simp [hpursue] at h
  | ok found =>
    rw [hpursue] at h
    cases found with
    | asDir loc node => exact absurd h (by simp)
    | node loc node =>
      rw [lengthAt?, find_of_creating hpursue]
      cases node <;> simp only [writable, Except.map, Except.ok.injEq, Prod.mk.injEq] at h
      · exact absurd h (by simp)
      · obtain ⟨rfl, rfl⟩ := h
        rfl
      · exact absurd h (by simp)
      · obtain ⟨rfl, rfl⟩ := h
        rfl
    | free loc =>
      simp only [Except.ok.injEq, Prod.mk.injEq] at h
      obtain ⟨rfl, rfl⟩ := h
      rw [lengthAt?, find_of_creating_free hpursue]
      show ((d.putNewFile loc).1.content d.contents.length).length = 0
      rw [content_putNewFile]
      simp [content]

/-- What stands at a path that nothing is found at is new when it is opened for writing. -/
theorem lengthAt?_of_exists (h : d.exists? p = false) : d.lengthAt? p = none := by
  rw [exists?] at h
  rw [lengthAt?]
  split at h
  · exact absurd h (by simp)
  · next hfind => rw [hfind]

end Disk

namespace LiveFile

variable {file file' : LiveFile} {pattern : Text} {d d' : Disk} {w w' : World} {handle : Handle}

/-! ### What the operations count -/

theorem append_eq {record : Bytes} (h : file.append record w = (.ok (), file', w')) :
    file' = { file with
      size := file.size + record.length
      counters := { file.counters with
        bytes := file.counters.bytes + record.length
        records := file.counters.records + 1
        size := file.counters.size + record.length } } := by
  rw [append] at h
  split at h
  · exact absurd h (by simp)
  · split at h
    · exact absurd h (by simp)
    · simp only [Prod.mk.injEq, true_and] at h
      exact h.1.symm

theorem openAt_eq {path : Path} (h : openAt path w = (.ok file, w')) :
    file.counters.bytes = 0 ∧ file.counters.records = 0 ∧ file.counters.rollovers = 0 ∧
      file.counters.size = file.size := by
  rw [openAt] at h
  split at h
  · exact absurd h (by simp)
  split at h
  · exact absurd h (by simp)
  split at h
  · exact absurd h (by simp)
  simp only [Prod.mk.injEq] at h
  obtain ⟨hfile, hw⟩ := h
  rw [hw] at hfile
  split at hfile
  · rw [Except.ok.injEq] at hfile
    subst hfile
    exact ⟨rfl, rfl, rfl, rfl⟩
  · exact absurd hfile (by simp)

theorem close_eq (file : LiveFile) (w : World) :
    (file.close w).1 = { file with handle := none } := by
  rw [close]
  split
  · next hnone => rw [← hnone]
  · rfl

/-- A rollover that fails has closed the live file at most. -/
theorem rollOver_error {e : IoError} (h : file.rollOver pattern w = (.error e, file', w')) :
    file' = file ∨ ∃ reopened, file' = { file with handle := reopened } := by
  have hreopen : ∀ w₁, ∃ reopened, (file.reopen w₁).2.1 = { file with handle := reopened } := by
    intro w₁
    rw [reopen]
    split <;> exact ⟨_, rfl⟩
  rw [rollOver_eq] at h
  cases hput : file.putAway pattern w with
  | refused e' =>
    simp only [hput, Prod.mk.injEq] at h
    exact .inl h.2.1.symm
  | kept e' w₁ =>
    obtain ⟨reopened, heq⟩ := hreopen w₁
    rw [hput] at h
    rcases hagain : file.reopen w₁ with ⟨e'' | _, file₁, w₂⟩ <;>
    · simp only [hagain, Prod.mk.injEq] at h heq
      exact .inr ⟨reopened, by rw [← h.2.1, heq]⟩
  | moved target w₁ =>
    obtain ⟨reopened, heq⟩ := hreopen w₁
    rw [hput] at h
    rcases hagain : file.reopen w₁ with ⟨e'' | _, file₁, w₂⟩
    · simp only [hagain, Prod.mk.injEq] at h heq
      exact .inr ⟨reopened, by rw [← h.2.1, heq]⟩
    · simp [hagain] at h

/-! ### Where the live file is -/

/-- The path of a live file leads to the file behind a handle, and whoever opens it gets that. -/
structure LeadsTo (file : LiveFile) (d : Disk) (handle : Handle) : Prop where
  sound : d.Sound
  seats : ∃ dir, d.Seats file.path dir file.counters.name handle
  there : ∃ loc node, d.pursue true file.path = .ok (.node loc node) ∧
    Disk.writable node = .ok handle

/-- What others may do while a live file is in use: its path leads where it led, and the file there
holds what it held. -/
def Undisturbed (file : LiveFile) (d d' : Disk) : Prop :=
  ∀ {handle : Handle}, file.LeadsTo d handle → file.LeadsTo d' handle ∧
    (handle.bytes d').length = (handle.bytes d).length

/-- Nothing is left at the live file's path once a rollover has put the content away. -/
def Leaves (file : LiveFile) (pattern : Text) (w : World) : Prop :=
  ∀ {target : Path} {w₁ : World}, file.putAway pattern w = .moved target w₁ →
    w₁.disk.exists? file.path = false

namespace LeadsTo

theorem lengthAt? (h : file.LeadsTo d handle) :
    d.lengthAt? file.path = some (handle.bytes d).length := by
  obtain ⟨loc, node, hpursue, hwritable⟩ := h.there
  rw [Disk.lengthAt?, Disk.find_of_creating hpursue]
  cases node <;> simp only [Disk.writable, Except.ok.injEq] at hwritable
  · exact absurd hwritable (by simp)
  · subst hwritable
    rfl
  · exact absurd hwritable (by simp)
  · subst hwritable
    rfl

theorem of_alike (h : file.LeadsTo d handle) (sound : d'.Sound) (alike : d.Alike d')
    (length : d.contents.length ≤ d'.contents.length) : file.LeadsTo d' handle := by
  obtain ⟨-, ⟨dir, seats⟩, loc, node, hpursue, hwritable⟩ := h
  exact ⟨sound, ⟨dir, seats.of_alike alike length⟩, loc, node, by rw [alike.pursue, hpursue],
    hwritable⟩

theorem withFaults (h : file.LeadsTo d handle) (faults : List (Option OsError)) :
    file.LeadsTo { d with faults } handle :=
  h.of_alike (h.sound.withFaults faults) (Disk.alike_faults d faults) le_rfl

theorem of_same (h : file.LeadsTo d handle) (same : file.Same file') : file'.LeadsTo d handle := by
  obtain ⟨sound, ⟨dir, seats⟩, there⟩ := h
  exact ⟨sound, ⟨dir, by rw [same.path, same.name]; exact seats⟩, by rw [same.path]; exact there⟩

theorem openAppend {handle' : Handle} (h : file.LeadsTo d handle)
    (hopen : Disk.openAppend file.path d = .ok (handle', d')) : handle' = handle ∧ d' = d := by
  obtain ⟨dir, seats⟩ := h.seats
  exact seats.openForWriting hopen

theorem write {record : Bytes} (h : file.LeadsTo d handle)
    (hwrite : Disk.write handle record d = .ok ((), d')) :
    file.LeadsTo d' handle ∧ handle.bytes d' = handle.bytes d ++ record := by
  obtain ⟨dir, seats⟩ := h.seats
  obtain ⟨sound, -, hbytes⟩ := seats.write h.sound hwrite
  refine ⟨?_, hbytes⟩
  cases handle with
  | file id =>
    simp only [Disk.write, Except.ok.injEq, Prod.mk.injEq, true_and] at hwrite
    subst hwrite
    exact h.of_alike sound ⟨rfl, fun _ => rfl⟩ (by simp [Disk.setContent])
  | full =>
    simp only [Disk.write] at hwrite
    split at hwrite
    · simp only [Except.ok.injEq, Prod.mk.injEq, true_and] at hwrite
      exact hwrite ▸ h
    · exact absurd hwrite (by simp)
  | dir => exact absurd hwrite (by simp [Disk.write])

end LeadsTo

theorem leadsTo_of_openAppend (sound : d.Sound)
    (named : file.path.fileName? = some file.counters.name)
    (h : Disk.openAppend file.path d = .ok (handle, d')) : file.LeadsTo d' handle := by
  obtain ⟨grows, -⟩ := Disk.openForWriting_ok h
  obtain ⟨dir, name, seats⟩ := Disk.seats_of_openForWriting sound h
  obtain ⟨-, loc, node, hpursue, -, hwritable⟩ := Disk.again_of_openForWriting h
  obtain rfl : name = file.counters.name := by
    rw [seats.only.endsIn.fileName? seats.only.plain] at named
    exact Option.some.inj named
  exact ⟨grows.sound sound, ⟨dir, seats⟩, loc, node, hpursue, hwritable⟩

theorem LeadsTo.putAway {target : Path} (h : file.LeadsTo w.disk handle)
    (hput : file.putAway pattern w = .moved target w') :
    w'.disk.Sound ∧ w'.disk.contents = w.disk.contents := by
  obtain ⟨dir, seats⟩ := h.seats
  have sound : ∀ faults, ({ w.disk with faults } : Disk).Sound := h.sound.withFaults
  obtain ⟨-, faults, hrename⟩ := putAway_ok hput
  obtain ⟨dir₁, name₁, slash, node, dir', name', slash', hgoal, hentry, hgoal', -, hmove⟩ :=
    Disk.rename_ok hrename
  obtain ⟨heq, rfl⟩ := (seats.only.withFaults faults).goal hgoal
  obtain ⟨rfl, rfl⟩ := Goal.entry.inj heq
  have hnode := (Disk.nodeIn?_ok hentry).1.symm
  have hdir : node ≠ .dir := by
    rintro rfl
    exact seats.not_dir hnode
  obtain ⟨hslash, ⟨-, hsame⟩ | ⟨ne, htaken, hmoved⟩⟩ := Disk.moveOnto_ok hdir hmove
  · rw [hsame]
    exact ⟨sound faults, rfl⟩
  · obtain rfl : slash' = false := hslash
    rw [hmoved]
    exact ⟨(sound faults).move hnode hdir (Disk.isDir_of_goal hgoal')
      (Disk.only_of_goal hgoal').2.plain htaken ne, rfl⟩

/-- A pattern that puts no slash into the name leaves nothing behind. -/
theorem LeadsTo.leaves (h : file.LeadsTo w.disk handle)
    (no_slash : ∀ stamp, w.wall.format? pattern = some stamp → '/' ∉ stamp) :
    file.Leaves pattern w := by
  intro target w₁ hput
  obtain ⟨dir, seats⟩ := h.seats
  obtain ⟨hrolled, faults, hrename⟩ := putAway_ok hput
  obtain ⟨stamp, n, hstamp, rfl, -⟩ := rolledName_tried hrolled
  have only := only_tried seats.valid seats.only (no_slash stamp hstamp) n
  obtain ⟨site, hnone, -⟩ := (seats.withFaults faults).rename (h.sound.withFaults faults)
    (only.withFaults faults) (triedName_ne n) hrename
  rw [Bool.eq_false_iff]
  exact fun hexists => site.only.exists_node hexists hnone

/-- The path of a live file that has been opened leads to it, whether it was there or is new. -/
theorem leadsTo_of_openAt {path : Path} (sound : w.disk.Sound)
    (h : openAt path w = (.ok file, w')) :
    ∃ handle, file.LeadsTo w'.disk handle ∧ file.path = path ∧ file.handle = some handle ∧
      (handle.bytes w'.disk).length = file.size ∧ file.size = (w.disk.lengthAt? path).getD 0 := by
  obtain ⟨name, handle, faults, faults', d, hname, hopen, hdisk, hpath, hhandle, hcalled, hsize⟩ :=
    openAt_ok h
  have leads : file.LeadsTo d handle := leadsTo_of_openAppend (sound.withFaults faults)
    (by rw [hpath, hcalled, hname]) (by rw [hpath]; exact hopen)
  have hlength := Disk.lengthAt?_of_openForWriting hopen
  rw [(Disk.alike_faults w.disk faults).lengthAt? rfl] at hlength
  refine ⟨handle, hdisk ▸ leads.withFaults faults', hpath, hhandle, hsize.symm, ?_⟩
  rw [hsize, hdisk, ← hlength]
  cases handle <;> rfl

theorem LeadsTo.openAt_error {e : IoError} (h : file.LeadsTo w.disk handle)
    (hopen : openAt file.path w = (.error e, w')) : ∃ faults, w'.disk = { w.disk with faults } := by
  rw [openAt] at hopen
  split at hopen
  · simp only [Prod.mk.injEq] at hopen
    exact ⟨w.disk.faults, by rw [← hopen.2]⟩
  split at hopen
  · next e' w₁ hfailed =>
    simp only [Prod.mk.injEq] at hopen
    obtain ⟨faults, rfl⟩ := World.attempt_error hfailed
    exact ⟨faults, by rw [← hopen.2]⟩
  next handle' w₁ hopened =>
  obtain ⟨faults, d, hop, rfl⟩ := World.attempt_ok hopened
  obtain ⟨-, rfl⟩ := (h.withFaults faults).openAppend hop
  split at hopen
  · next e' w₂ hfailed =>
    simp only [Prod.mk.injEq] at hopen
    obtain ⟨faults', rfl⟩ := World.attempt_error hfailed
    exact ⟨faults', by rw [← hopen.2]⟩
  · next size w₂ hlength =>
    obtain ⟨faults', d', hop', rfl⟩ := World.attempt_ok hlength
    simp only [Prod.mk.injEq] at hopen
    refine ⟨faults', ?_⟩
    rw [← hopen.2]
    split <;> cases handle' <;> simp only [Disk.length, Except.ok.injEq, Prod.mk.injEq] at hop' <;>
      exact hop'.2.symm

/-! ### Use of a live file -/

/-- What has been done with a live file since it was opened. -/
structure Diary where
  found : Nat
  records : List Bytes
  /-- How long the live file was at each rollover. -/
  rolled : List Nat

/-- A live file in its world, and what has been done with it. -/
structure Usage where
  file : LiveFile
  world : World
  diary : Diary

def Usage.ofOpened (path : Path) (before : World) (file : LiveFile) (w : World) : Usage :=
  { file, world := w
    diary := { found := (before.disk.lengthAt? path).getD 0, records := [], rolled := [] } }

/-- An operation on a live file, or something that others do. One that fails does so before it has
had an effect; a live file that is opened again takes the place of the one before. -/
inductive Usage.Step (u : Usage) : Usage → Prop where
  | appended {record : Bytes} {file : LiveFile} {w : World}
      (did : u.file.append record u.world = (.ok (), file, w)) :
      Step u { file, world := w
               diary := { u.diary with records := u.diary.records ++ [record] } }
  | appendFailed {record : Bytes} {e : IoError} {file : LiveFile} {w : World}
      (did : u.file.append record u.world = (.error e, file, w)) :
      Step u { u with file, world := w }
  | rolledOver {pattern : Text} {target : Path} {file : LiveFile} {w : World} {length : Nat}
      (was : u.world.disk.lengthAt? u.file.path = some length)
      (did : u.file.rollOver pattern u.world = (.ok target, file, w))
      (leaves : u.file.Leaves pattern u.world) :
      Step u { file, world := w
               diary := { u.diary with rolled := u.diary.rolled ++ [length] } }
  | rollOverFailed {pattern : Text} {e : IoError} {file : LiveFile} {w : World}
      (did : u.file.rollOver pattern u.world = (.error e, file, w))
      (unmoved : ∀ target w₁, u.file.putAway pattern u.world ≠ .moved target w₁) :
      Step u { u with file, world := w }
  | closed : Step u { u with file := (u.file.close u.world).1, world := (u.file.close u.world).2 }
  | reopened {file : LiveFile} {w : World}
      (did : openAt u.file.path u.world = (.ok file, w)) :
      Step u (.ofOpened u.file.path u.world file w)
  | reopenFailed {e : IoError} {w : World} (did : openAt u.file.path u.world = (.error e, w)) :
      Step u { u with world := w }
  | others {w : World} (undisturbed : u.file.Undisturbed u.world.disk w.disk) :
    Step u { u with world := w }

namespace Usage

/-- The lengths are one, and the counters are what was done. -/
structure Agrees (u : Usage) : Prop where
  size : u.file.counters.size = u.file.size
  length : u.world.disk.lengthAt? u.file.path = some u.file.size
  bytes : u.file.counters.bytes = (u.diary.records.map List.length).sum
  records : u.file.counters.records = u.diary.records.length
  rollovers : u.file.counters.rollovers = u.diary.rolled.length
  balance : u.file.size + u.diary.rolled.sum = u.diary.found + u.file.counters.bytes

/-- The counters are what was done, and the live file is the file behind a handle. -/
structure Holds (u : Usage) (handle : Handle) : Prop where
  leads : u.file.LeadsTo u.world.disk handle
  opened : ∀ {handle' : Handle}, u.file.handle = some handle' → handle' = handle
  length : (handle.bytes u.world.disk).length = u.file.size
  size : u.file.counters.size = u.file.size
  bytes : u.file.counters.bytes = (u.diary.records.map List.length).sum
  records : u.file.counters.records = u.diary.records.length
  rollovers : u.file.counters.rollovers = u.diary.rolled.length
  balance : u.file.size + u.diary.rolled.sum = u.diary.found + u.file.counters.bytes

theorem holds_of_openAt {path : Path} (sound : w.disk.Sound)
    (did : openAt path w = (.ok file, w')) :
    ∃ handle, (ofOpened path w file w').Holds handle := by
  obtain ⟨handle, leads, -, hhandle, hlength, hsize⟩ := leadsTo_of_openAt sound did
  obtain ⟨hbytes, hrecords, hrollovers, hcounted⟩ := openAt_eq did
  refine ⟨handle, leads, fun heq => ?_, hlength, hcounted, hbytes, hrecords, hrollovers, ?_⟩
  · exact Option.some.inj (heq.symm.trans hhandle)
  · simpa [ofOpened, hbytes] using hsize

namespace Holds

variable {u u' : Usage}

theorem agrees (h : u.Holds handle) : u.Agrees where
  size := h.size
  length := by rw [h.leads.lengthAt?, h.length]
  bytes := h.bytes
  records := h.records
  rollovers := h.rollovers
  balance := h.balance

theorem of_faults (h : u.Holds handle) {reopened : Option Handle} {faults : List (Option OsError)}
    (opened : ∀ {handle' : Handle}, reopened = some handle' → handle' = handle)
    (disk : w.disk = { u.world.disk with faults }) :
    Holds { u with file := { u.file with handle := reopened }, world := w } handle where
  leads := (disk ▸ h.leads.withFaults faults).of_same ⟨rfl, rfl⟩
  opened := opened
  length := by
    show (handle.bytes w.disk).length = u.file.size
    rw [disk, ← h.length]
    cases handle <;> rfl
  size := h.size
  bytes := h.bytes
  records := h.records
  rollovers := h.rollovers
  balance := h.balance

theorem appended {record : Bytes} (h : u.Holds handle)
    (did : u.file.append record u.world = (.ok (), file, w)) :
    Holds { file, world := w
            diary := { u.diary with records := u.diary.records ++ [record] } } handle := by
  obtain ⟨handle', faults, hhandle, hwrite, hpath, hname, hsame⟩ := append_ok did
  obtain rfl := h.opened hhandle
  obtain ⟨leads, hbytes⟩ := (h.leads.withFaults faults).write hwrite
  have hlength : (handle'.bytes w.disk).length = u.file.size + record.length := by
    rw [hbytes, List.length_append, ← h.length]
    cases handle' <;> rfl
  obtain rfl := append_eq did
  refine ⟨leads.of_same ⟨hpath, hname⟩, h.opened, hlength, ?_, ?_, ?_, h.rollovers, ?_⟩
  · simp only [h.size]
  · simp [h.bytes]
  · simp [h.records]
  · have := h.balance
    simp only
    omega

theorem rolledOver {pattern : Text} {target : Path} {length : Nat} (h : u.Holds handle)
    (was : u.world.disk.lengthAt? u.file.path = some length)
    (did : u.file.rollOver pattern u.world = (.ok target, file, w))
    (leaves : u.file.Leaves pattern u.world) :
    ∃ handle, Holds { file, world := w
                      diary := { u.diary with rolled := u.diary.rolled ++ [length] } }
      handle := by
  obtain ⟨w₁, handle', hput, hopen, rfl⟩ := rollOver_ok did
  obtain ⟨sound, -⟩ := h.leads.putAway hput
  obtain ⟨faults, disk, hop, rfl⟩ := World.attempt_ok hopen
  have hnone := Disk.lengthAt?_of_exists (leaves hput)
  have hempty := Disk.lengthAt?_of_openForWriting hop
  rw [(Disk.alike_faults w₁.disk faults).lengthAt? rfl, hnone] at hempty
  obtain ⟨dir, seats⟩ := h.leads.seats
  have leads := leadsTo_of_openAppend (sound.withFaults faults)
    (seats.only.endsIn.fileName? seats.only.plain) hop
  have hwas : length = u.file.size := by
    rw [h.leads.lengthAt?, Option.some.injEq, h.length] at was
    exact was.symm
  refine ⟨handle', leads.of_same ⟨rfl, rfl⟩, fun heq => (Option.some.inj heq).symm, hempty, rfl,
    h.bytes, h.records, ?_, ?_⟩
  · simp [rolled, h.rollovers]
  · have := h.balance
    simp only [rolled, List.sum_append, List.sum_singleton, hwas]
    omega

theorem rollOverFailed {pattern : Text} {e : IoError} (h : u.Holds handle)
    (did : u.file.rollOver pattern u.world = (.error e, file, w))
    (unmoved : ∀ target w₁, u.file.putAway pattern u.world ≠ .moved target w₁) :
    Holds { u with file, world := w } handle := by
  rw [rollOver_eq] at did
  cases hput : u.file.putAway pattern u.world with
  | refused e' =>
    simp only [hput, Prod.mk.injEq] at did
    obtain ⟨-, rfl, rfl⟩ := did
    exact h
  | kept e' w₁ =>
    obtain ⟨faults, hdisk⟩ := putAway_kept hput
    obtain ⟨dir, seats⟩ := (h.leads.withFaults faults).seats
    obtain ⟨result, reopened, w₂, faults', hreopen, hcases, hdisk'⟩ := reopen_seated (hdisk ▸ seats)
    have opened : ∀ {handle' : Handle}, reopened = some handle' → handle' = handle := by
      rintro handle' rfl
      exact hcases.elim Option.some.inj fun hnone => absurd hnone (by simp)
    simp only [hput, hreopen] at did
    cases result <;>
    · simp only [Prod.mk.injEq] at did
      obtain ⟨-, rfl, rfl⟩ := did
      exact h.of_faults opened (by rw [hdisk', hdisk])
  | moved target w₁ => exact absurd hput (unmoved target w₁)

theorem step (h : u.Holds handle) (step : u.Step u') : ∃ handle, u'.Holds handle := by
  cases step with
  | appended did => exact ⟨handle, h.appended did⟩
  | appendFailed did =>
    obtain ⟨rfl, faults, hdisk⟩ := append_error did
    exact ⟨handle, h.of_faults h.opened hdisk⟩
  | rolledOver was did leaves => exact h.rolledOver was did leaves
  | rollOverFailed did unmoved => exact ⟨handle, h.rollOverFailed did unmoved⟩
  | closed =>
    obtain ⟨faults, hdisk⟩ := u.file.close_disk u.world
    rw [close_eq]
    exact ⟨handle, h.of_faults (fun hnone => absurd hnone (by simp)) hdisk⟩
  | reopened did => exact holds_of_openAt h.leads.sound did
  | reopenFailed did =>
    obtain ⟨faults, hdisk⟩ := h.leads.openAt_error did
    exact ⟨handle, h.of_faults h.opened hdisk⟩
  | others undisturbed =>
    obtain ⟨leads, hlength⟩ := undisturbed h.leads
    exact ⟨handle, leads, h.opened, hlength.trans h.length, h.size, h.bytes, h.records,
      h.rollovers, h.balance⟩

end Holds

/-- A live file that has been opened holds what was counted, however it is used. -/
theorem holds_of_used {path : Path} {u : Usage} (sound : w.disk.Sound)
    (did : openAt path w = (.ok file, w'))
    (used : Relation.ReflTransGen Step (ofOpened path w file w') u) : ∃ handle, u.Holds handle := by
  induction used with
  | refl => exact holds_of_openAt sound did
  | tail _ step ih =>
    obtain ⟨handle, holds⟩ := ih
    exact holds.step step

end Usage

end LiveFile

end Outbox
