import Outbox.Proofs.LiveFile.Names

/-!
# Operations on the live file

What appending a record and rolling over come to. A rollover gives what the live file holds its new
name, and then opens the live file again. The first half is `putAway`, and `rollOver_eq` says how
the second goes on from it. On a disk where the live file's path leads to one name in one directory,
the first half either leaves the disk as it was or moves one entry to a name in that directory that
no path can find, so no file is overwritten.
-/

set_option autoImplicit false

namespace Outbox

namespace World

variable {α : Type} {operation : Disk → Except IoError (α × Disk)} {w w' : World}

theorem attempt_ok {a : α} (h : w.attempt operation = (.ok a, w')) :
    ∃ faults disk, operation { w.disk with faults } = .ok (a, disk) ∧ w' = { w with disk } := by
  have hdisk : w.disk.attempt operation = (.ok a, w'.disk) ∧ w' = { w with disk := w'.disk } := by
    rw [attempt] at h
    obtain ⟨hresult, hw⟩ := Prod.mk.inj h
    subst hw
    exact ⟨Prod.ext hresult rfl, rfl⟩
  obtain ⟨faults, hop⟩ := Disk.attempt_ok hdisk.1
  exact ⟨faults, w'.disk, hop, hdisk.2⟩

theorem attempt_error {e : IoError} (h : w.attempt operation = (.error e, w')) :
    ∃ faults, w' = { w with disk := { w.disk with faults } } := by
  have hdisk : w.disk.attempt operation = (.error e, w'.disk) ∧
      w' = { w with disk := w'.disk } := by
    rw [attempt] at h
    obtain ⟨hresult, hw⟩ := Prod.mk.inj h
    subst hw
    exact ⟨Prod.ext hresult rfl, rfl⟩
  obtain ⟨faults, hfaults⟩ := Disk.attempt_error hdisk.1
  exact ⟨faults, by rw [hdisk.2, hfaults]⟩

end World

/-- The content of an open file. -/
def Handle.bytes (handle : Handle) (d : Disk) : Bytes :=
  match handle with
  | .file id => d.content id
  | _ => []

def LiveFile.bytes (file : LiveFile) (d : Disk) : Bytes :=
  match file.handle with
  | some handle => handle.bytes d
  | none => []

/-- A disk on which a path leads to one name in one directory. -/
structure Site (d : Disk) (path : Path) (dir : Location) (name : Name) : Prop where
  sound : d.Sound
  valid : path.Valid
  only : d.Only path dir name

namespace Site

variable {d : Disk} {path : Path} {dir : Location} {name : Name}

theorem withFaults (site : Site d path dir name) (faults : List (Option OsError)) :
    Site { d with faults } path dir name :=
  ⟨site.sound.withFaults faults, site.valid, site.only.withFaults faults⟩

theorem beside {q : Path} {other : Name} (site : Site d path dir name)
    (beside : path.Beside name q other) (plain : Plain other) : d.Only q dir other :=
  site.only.beside site.valid beside plain

end Site

namespace LiveFile

/-- A live file that has kept its path and its name. -/
structure Same (file file' : LiveFile) : Prop where
  path : file'.path = file.path
  name : file'.counters.name = file.counters.name

theorem Same.refl (file : LiveFile) : file.Same file :=
  ⟨rfl, rfl⟩

theorem Same.trans {file file' file'' : LiveFile} (h : file.Same file') (h' : file'.Same file'') :
    file.Same file'' :=
  ⟨h'.path.trans h.path, h'.name.trans h.name⟩

/-- What it comes to to give what the live file holds its new name. -/
inductive PutAway where
  /-- There is nothing to rename, or no name for it. -/
  | refused (e : IoError)
  | kept (e : IoError) (w : World)
  | moved (target : Path) (w : World)

/-- Gives what the live file holds the stamped name. -/
def putAway (file : LiveFile) (pattern : Text) (w : World) : PutAway :=
  match file.handle with
  | none => .refused .closed
  | some handle =>
    match file.rolledName pattern w with
    | .error e => .refused e
    | .ok target =>
      match (settle handle (.syncBeforeRolloverFailed file.path) w).attempt
          (Disk.rename file.path target) with
      | (.error e, w) => .kept e w
      | (.ok (), w) => .moved target w

/-- A rollover puts the content away and opens the live file again. -/
theorem rollOver_eq (file : LiveFile) (pattern : Text) (w : World) :
    file.rollOver pattern w
      = match file.putAway pattern w with
        | .refused e => (.error e, file, w)
        | .kept e w =>
          match file.reopen w with
          | (.error e', file, w) => (.error e', file, w)
          | (.ok (), file, w) => (.error e, file, w)
        | .moved target w =>
          match file.reopen w with
          | (.error e, file, w) => (.error e, file, w)
          | (.ok (), file, w) => (.ok target, file.rolled w, w) := by
  rw [rollOver, putAway]
  cases file.handle with
  | none => rfl
  | some handle =>
    cases file.rolledName pattern w with
    | error e => rfl
    | ok target =>
      simp only
      generalize World.attempt _ _ = attempt
      obtain ⟨e | _, w'⟩ := attempt <;> rfl

theorem settle_disk (handle : Handle) (failed : IoError → Event) (w : World) :
    ∃ faults, (settle handle failed w).disk = { w.disk with faults } := by
  rw [settle]
  split
  · next e w' hsync =>
    obtain ⟨faults, rfl⟩ := World.attempt_error hsync
    exact ⟨faults, rfl⟩
  · next w' hsync =>
    obtain ⟨faults, disk, hop, rfl⟩ := World.attempt_ok hsync
    refine ⟨faults, ?_⟩
    cases handle with
    | file id => simpa [Disk.sync] using hop.symm
    | full => simp [Disk.sync] at hop
    | dir => simpa [Disk.sync] using hop.symm

/-- Whatever the pattern, the name that a rollover gives is free. -/
theorem rolledName_free {file : LiveFile} {pattern : Text} {w : World} {target : Path}
    (h : file.rolledName pattern w = .ok target) : w.disk.exists? target = false := by
  rw [rolledName] at h
  split at h
  · exact absurd h (by simp)
  · split at h
    · exact absurd h (by simp)
    · rw [Except.ok.injEq] at h
      exact h ▸ exists_freeName _ _ (by simp)

/-- What a rollover gives a name goes beside the live file, to a name that goes on after that of the
live file. -/
theorem rolledName_ok {file : LiveFile} {w : World} {target : Path}
    (h : file.rolledName stampPattern w = .ok target) :
    ∃ other, Follows file.counters.name other ∧ target = file.path.withFileName other := by
  rw [rolledName] at h
  split at h
  · exact absurd h (by simp)
  · split at h
    · exact absurd h (by simp)
    · next stamp hstamp =>
      rw [Except.ok.injEq] at h
      exact h ▸ freeName_follows _ _ ⟨stamp, rfl, stamp_tail hstamp⟩

theorem putAway_ok {file : LiveFile} {pattern : Text} {w w' : World} {target : Path}
    (h : file.putAway pattern w = .moved target w') :
    file.rolledName pattern w = .ok target ∧
      ∃ faults, Disk.rename file.path target { w.disk with faults } = .ok ((), w'.disk) := by
  rw [putAway] at h
  split at h
  · exact absurd h (by simp)
  · next handle _ =>
    split at h
    · exact absurd h (by simp)
    · next target' hrolled =>
      split at h
      · exact absurd h (by simp)
      · next w'' hrename =>
        rw [PutAway.moved.injEq] at h
        obtain ⟨rfl, rfl⟩ := h
        obtain ⟨faults, hsettle⟩ :=
          settle_disk handle (.syncBeforeRolloverFailed file.path) w
        obtain ⟨faults', disk, hop, rfl⟩ := World.attempt_ok hrename
        rw [hsettle] at hop
        exact ⟨hrolled, faults', hop⟩

section Site

variable {file : LiveFile} {w w' : World} {dir : Location} {name : Name}

/-- What a live file held has gone to a name in its directory where no file was. -/
structure Moves (path : Path) (dir : Location) (name : Name) (target : Path) (other : Name)
    (d d' : Disk) : Prop where
  follows : Follows name other
  beside : path.Beside name target other
  free : d.node? (dir ++ [other]) = none ∨ ∃ link, d.node? (dir ++ [other]) = some (.link link)
  disk : ∃ faults, d' = { d.move (dir ++ [name]) (dir ++ [other]) with faults }

theorem putAway_moved {id : Nat} {target : Path} (site : Site w.disk file.path dir name)
    (hname : file.counters.name = name)
    (hnode : w.disk.node? (dir ++ [name]) = some (.file id))
    (h : file.putAway stampPattern w = .moved target w') :
    ∃ other, Moves file.path dir name target other w.disk w'.disk := by
  obtain ⟨hrolled, faults, hrename⟩ := putAway_ok h
  have hfree := rolledName_free hrolled
  obtain ⟨other, hother, rfl⟩ := rolledName_ok hrolled
  rw [hname] at hother
  have hplain := hother.plain site.only.plain
  have hbeside := Path.beside_withFileName site.only.endsIn site.only.plain hplain
  have honly := site.beside hbeside hplain
  obtain ⟨-, hgoal, hentry, -, hdisk⟩ := (site.only.withFaults faults).rename
    (honly.withFaults faults) (by simp [hnode]) hother.ne hrename
  rw [Disk.goal_faults] at hgoal
  exact ⟨other, hother, hbeside, Disk.free_of_goal hgoal hentry hfree, faults, hdisk⟩

section Moves

variable {path target : Path} {other : Name} {d d' : Disk} {id : Nat}

theorem Moves.not_file (h : Moves path dir name target other d d') (id : Nat) :
    d.node? (dir ++ [other]) ≠ some (.file id) := by
  rcases h.free with hnone | ⟨link, hlink⟩
  · simp [hnone]
  · simp [hlink]

theorem Moves.not_dir (h : Moves path dir name target other d d') :
    d.node? (dir ++ [other]) ≠ some .dir := by
  rcases h.free with hnone | ⟨link, hlink⟩
  · simp [hnone]
  · simp [hlink]

theorem Moves.ne (h : Moves path dir name target other d d') : dir ++ [name] ≠ dir ++ [other] := by
  simpa using h.follows.ne

theorem Moves.node? (h : Moves path dir name target other d d') (site : Site d path dir name)
    (hnode : d.node? (dir ++ [name]) = some (.file id)) (loc : Location) :
    d'.node? loc = if loc = dir ++ [other] then some (.file id)
      else if loc = dir ++ [name] then none else d.node? loc := by
  obtain ⟨faults, rfl⟩ := h.disk
  rw [Disk.node?_faults, site.sound.node?_move hnode (by simp) h.ne (by simp)]

theorem Moves.content (h : Moves path dir name target other d d') (id : Nat) :
    d'.content id = d.content id := by
  obtain ⟨faults, rfl⟩ := h.disk
  rfl

theorem Moves.site (h : Moves path dir name target other d d') (site : Site d path dir name)
    (hnode : d.node? (dir ++ [name]) = some (.file id)) : Site d' path dir name := by
  have hdir : d.node? dir = some .dir := site.sound.parent hnode
  have hplain : Plain other := h.follows.plain site.only.plain
  have narrows : d.Narrows (d.move (dir ++ [name]) (dir ++ [other])) :=
    site.sound.narrows_move hnode h.ne (by simp)
  have sound : (d.move (dir ++ [name]) (dir ++ [other])).Sound :=
    site.sound.move hnode (by simp) hdir hplain h.not_dir h.ne
  obtain ⟨faults, rfl⟩ := h.disk
  exact Site.withFaults ⟨sound, site.valid, site.only.of_narrows narrows⟩ faults

end Moves

theorem open_of_putAway {pattern : Text} (h : ∀ e, file.putAway pattern w ≠ .refused e) :
    ∃ handle, file.handle = some handle := by
  cases hhandle : file.handle with
  | none => exact absurd (by rw [putAway, hhandle]) (h .closed)
  | some handle => exact ⟨handle, rfl⟩

theorem open_of_moved {pattern : Text} {target : Path}
    (h : file.putAway pattern w = .moved target w') : ∃ handle, file.handle = some handle := by
  apply @open_of_putAway file w pattern
  simp [h]

/-- A rename that failed has left the disk as it was. -/
theorem putAway_kept {pattern : Text} {e : IoError} (h : file.putAway pattern w = .kept e w') :
    ∃ faults, w'.disk = { w.disk with faults } := by
  rw [putAway] at h
  split at h
  · exact absurd h (by simp)
  · next handle _ =>
    split at h
    · exact absurd h (by simp)
    · split at h
      · next e' w'' hrename =>
        rw [PutAway.kept.injEq] at h
        obtain ⟨-, rfl⟩ := h
        obtain ⟨faults, hsettle⟩ :=
          settle_disk handle (.syncBeforeRolloverFailed file.path) w
        obtain ⟨faults', rfl⟩ := World.attempt_error hrename
        exact ⟨faults', by rw [hsettle]⟩
      · exact absurd h (by simp)

/-- Where no live file is, an empty one is opened, or none. -/
theorem reopen_vacant (only : w.disk.Only file.path dir name)
    (hnone : w.disk.node? (dir ++ [name]) = none) :
    (∃ e w' faults, file.reopen w = (.error e, { file with handle := none }, w') ∧
      w'.disk = { w.disk with faults }) ∨
    ∃ w' faults, file.reopen w
        = (.ok (), { file with handle := some (.file w.disk.contents.length) }, w') ∧
      w.disk.node? dir = some .dir ∧
      w'.disk = { (w.disk.putNewFile (dir ++ [name])).1 with faults } := by
  cases hopen : w.attempt (Disk.openAppend file.path) with
  | mk result w' =>
    cases result with
    | error e =>
      obtain ⟨faults, hdisk⟩ := World.attempt_error hopen
      exact .inl ⟨e, w', faults, by rw [reopen, hopen], by rw [hdisk]⟩
    | ok handle =>
      obtain ⟨faults, disk, hop, rfl⟩ := World.attempt_ok hopen
      have hlink : ({ w.disk with faults } : Disk).Linkless (dir ++ [name]) := by
        intro target
        simp [hnone]
      rcases (only.withFaults faults).openForWriting hlink hop with
        ⟨node, hnode, -⟩ | ⟨-, hdir, rfl, rfl⟩
      · rw [Disk.node?_faults, hnone] at hnode
        exact absurd hnode (by simp)
      · exact .inr ⟨_, faults, by rw [reopen, hopen], hdir, rfl⟩

theorem close_disk (file : LiveFile) (w : World) :
    ∃ faults, (file.close w).2.disk = { w.disk with faults } := by
  rw [close]
  split
  · exact ⟨w.disk.faults, rfl⟩
  · exact settle_disk _ _ w

end Site

/-! ### Appending -/

section Append

variable {file file' : LiveFile} {record : Bytes} {w w' : World}

theorem same_append (file : LiveFile) (record : Bytes) (w : World) :
    file.Same (file.append record w).2.1 := by
  rw [append]
  split
  · exact .refl file
  · split
    · exact .refl file
    · exact ⟨rfl, rfl⟩

theorem same_close (file : LiveFile) (w : World) : file.Same (file.close w).1 := by
  rw [close]
  split <;> exact ⟨rfl, rfl⟩

theorem same_reopen (file : LiveFile) (w : World) : file.Same (file.reopen w).2.1 := by
  rw [reopen]
  split <;> exact ⟨rfl, rfl⟩

theorem same_rollOver (file : LiveFile) (pattern : Text) (w : World) :
    file.Same (file.rollOver pattern w).2.1 := by
  rw [rollOver_eq]
  cases file.putAway pattern w with
  | refused e => exact .refl file
  | kept e w₁ =>
    have hsame := same_reopen file w₁
    cases hreopen : file.reopen w₁ with
    | mk result after =>
      rw [hreopen] at hsame
      cases result <;> simpa only [hreopen] using hsame
  | moved target w₁ =>
    have hsame := same_reopen file w₁
    cases hreopen : file.reopen w₁ with
    | mk result after =>
      rw [hreopen] at hsame
      cases result with
      | error e => simpa only [hreopen] using hsame
      | ok =>
        have hrolled : file.Same (after.1.rolled after.2) := ⟨hsame.path, hsame.name⟩
        simpa only [hreopen] using hrolled

/-- What is put away goes beside the live file, to a name that goes on after that of the live
file. -/
theorem putAway_target {target : Path} (h : file.putAway stampPattern w = .moved target w') :
    ∃ other, Follows file.counters.name other ∧ target = file.path.withFileName other :=
  rolledName_ok (putAway_ok h).1

theorem rollOver_target {target : Path}
    (h : (file.rollOver stampPattern w).1 = .ok target) :
    ∃ other, Follows file.counters.name other ∧ target = file.path.withFileName other := by
  have hmoved : ∃ w₁, file.putAway stampPattern w = .moved target w₁ := by
    rw [rollOver_eq] at h
    cases hput : file.putAway stampPattern w with
    | refused e => rw [hput] at h; exact absurd h (by simp)
    | kept e w₁ =>
      rw [hput] at h
      cases hreopen : file.reopen w₁ with
      | mk result after => cases result <;> simp [hreopen] at h
    | moved target' w₁ =>
      rw [hput] at h
      cases hreopen : file.reopen w₁ with
      | mk result after =>
        cases result with
        | error e => simp [hreopen] at h
        | ok =>
          simp only [hreopen, Except.ok.injEq] at h
          exact ⟨w₁, by rw [h]⟩
  obtain ⟨w₁, hput⟩ := hmoved
  exact putAway_target hput

theorem append_error {e : IoError} (h : file.append record w = (.error e, file', w')) :
    file' = file ∧ ∃ faults, w'.disk = { w.disk with faults } := by
  rw [append] at h
  split at h
  · simp only [Prod.mk.injEq] at h
    obtain ⟨-, rfl, rfl⟩ := h
    exact ⟨rfl, _, rfl⟩
  · split at h
    · next e' w'' hwrite =>
      simp only [Prod.mk.injEq] at h
      obtain ⟨-, rfl, rfl⟩ := h
      obtain ⟨faults, rfl⟩ := World.attempt_error hwrite
      exact ⟨rfl, faults, rfl⟩
    · exact absurd h (by simp)

theorem append_ok (h : file.append record w = (.ok (), file', w')) :
    ∃ handle faults, file.handle = some handle ∧
      Disk.write handle record { w.disk with faults } = .ok ((), w'.disk) ∧
      file'.path = file.path ∧ file'.counters.name = file.counters.name ∧
      file'.handle = file.handle := by
  rw [append] at h
  split at h
  · exact absurd h (by simp)
  · next handle hhandle =>
    split at h
    · exact absurd h (by simp)
    · next w'' hwrite =>
      simp only [Prod.mk.injEq] at h
      obtain ⟨-, rfl, rfl⟩ := h
      obtain ⟨faults, disk, hop, rfl⟩ := World.attempt_ok hwrite
      exact ⟨handle, faults, hhandle, hop, rfl, rfl, rfl⟩

end Append

end LiveFile

end Outbox
