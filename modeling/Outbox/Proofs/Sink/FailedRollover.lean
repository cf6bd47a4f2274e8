import Mathlib.Logic.Basic
import Outbox.Proofs.Sink.Course
import Outbox.Proofs.Sink.Start

/-!
# Rollovers that fail

A rollover can fail before anything is done, because there is no name for what the live file holds,
at the rename, and when the live file is opened again. Whatever the names on the disk, the pattern
of the stamp and the operations that fail, it ends in one of two ways: nothing has changed and the
same live file goes on (`Kept`), or the live file is closed for good and what it held is still
there under its old name or its new one (`Shut`). The sink around it has changed in neither case.

A pattern may put slashes into a name, so the new name can lie in another directory. What is said of
it is where it stands before the rename, and that no file was there.
-/

set_option autoImplicit false

namespace Outbox

namespace Disk

/-- A path names a regular file: the entry in the last place is that file. -/
structure Names (d : Disk) (p : Path) (dir : Location) (name : Name) (id : Nat) : Prop where
  goal : d.goal p = .ok (.entry dir name, false)
  entry : d.nodeIn? dir name = .ok (some (.file id))
  bare : d.Bare (dir ++ [name])

/-- A file has been moved to where a path leads that led to nothing before. -/
structure Moved (d d' : Disk) (place : Location) (id : Nat) (target : Path) (dir : Location)
    (name : Name) : Prop where
  goal : d.goal target = .ok (.entry dir name, false)
  free : d.node? (dir ++ [name]) = none ∨ ∃ link, d.node? (dir ++ [name]) = some (.link link)
  node : ∀ loc, d'.node? loc = if loc = dir ++ [name] then some (.file id)
    else if loc = place then none else d.node? loc
  content : ∀ id, d'.content id = d.content id
  /-- The path leads to the file now, unless a link that led nowhere was in its last place. -/
  found : d.node? (dir ++ [name]) = none → d'.find target = .ok (dir ++ [name], .file id)

variable {d d' : Disk} {p target : Path} {dir : Location} {name : Name} {id : Nat}

theorem Moved.withFaults {place : Location} {faults faults' : List (Option OsError)}
    (h : ({ d with faults } : Disk).Moved d' place id target dir name) :
    d.Moved { d' with faults := faults' } place id target dir name where
  goal := by rw [← goal_faults d faults, h.goal]
  free := h.free
  node := h.node
  content := h.content
  found := by
    intro hnone
    rw [find_faults, h.found hnone]

namespace Names

theorem node (names : d.Names p dir name id) : d.node? (dir ++ [name]) = some (.file id) :=
  (nodeIn?_ok names.entry).1.symm

theorem find (names : d.Names p dir name id) : d.find p = .ok (dir ++ [name], .file id) :=
  find_of_goal names.goal names.entry (by simp)

theorem withFaults (names : d.Names p dir name id) (faults : List (Option OsError)) :
    ({ d with faults } : Disk).Names p dir name id :=
  ⟨by rw [goal_faults, names.goal], names.entry, names.bare⟩

theorem openAppend {handle : Handle} (names : d.Names p dir name id)
    (h : Disk.openAppend p d = .ok (handle, d')) : handle = .file id ∧ d' = d :=
  (only_of_goal names.goal).2.openForWriting_file names.node h

theorem rename (names : d.Names p dir name id) (free : d.exists? target = false)
    (h : Disk.rename p target d = .ok ((), d')) :
    ∃ dir' name', d.Moved d' (dir ++ [name]) id target dir' name' := by
  obtain ⟨dir₁, name₁, slash, node, dir', name', slash', hgoal, hnode, hgoal', hentry, hmove⟩ :=
    rename_ok h
  rw [names.goal, Except.ok.injEq, Prod.mk.injEq, Goal.entry.injEq] at hgoal
  obtain ⟨⟨rfl, rfl⟩, rfl⟩ := hgoal
  obtain rfl : node = .file id := Option.some.inj ((nodeIn?_ok hnode).1.trans names.node)
  obtain ⟨hslash, hcases⟩ := moveOnto_ok (by simp) hmove
  obtain rfl : slash' = false := hslash
  have hfree := free_of_goal hgoal' hentry free
  have ne : dir ++ [name] ≠ dir' ++ [name'] := by
    intro heq
    rw [← heq, names.node] at hfree
    simp at hfree
  obtain ⟨heq, -⟩ | ⟨-, -, rfl⟩ := hcases
  · exact absurd heq ne
  have hlookup : ∀ loc, (d.move (dir ++ [name]) (dir' ++ [name'])).node? loc
      = if loc = dir' ++ [name'] then some (.file id)
        else if loc = dir ++ [name] then none else d.node? loc := by
    intro loc
    rw [node?_move names.bare ne (by simp) (by simp), names.node]
  refine ⟨dir', name', hgoal', hfree, hlookup, fun _ => rfl, fun hnone => ?_⟩
  -- no directory or link on the way to the new name has gone
  have keeps : d.Keeps (d.move (dir ++ [name]) (dir' ++ [name'])) := by
    have same : ∀ {loc node}, d.node? loc = some node → node ≠ .file id →
        (d.move (dir ++ [name]) (dir' ++ [name'])).node? loc = some node := by
      intro loc node hloc hne
      rw [hlookup, if_neg, if_neg, hloc]
      · rintro rfl
        exact hne (Option.some.inj (hloc.symm.trans names.node))
      · rintro rfl
        rw [hnone] at hloc
        exact absurd hloc (by simp)
    exact ⟨rfl, fun h => same h (by simp), fun h => same h (by simp)⟩
  have hgoal : (d.move (dir ++ [name]) (dir' ++ [name'])).goal target
      = .ok (.entry dir' name', false) := by
    obtain ⟨valid, hends, -⟩ := goal_ok hgoal'
    obtain ⟨front, used, hsteps, hlast, hwalk, hused⟩ := steps_of_goal hgoal'
    rw [hends]
    exact goal_of_walk valid hsteps hlast (hwalk.of_keeps keeps) hused
  refine find_of_goal hgoal ?_ (by simp)
  rw [nodeIn?_of_size (nodeIn?_ok hentry).2, hlookup, if_pos rfl]

end Names

end Disk

namespace LiveFile

variable {file file' : LiveFile} {pattern : Text} {w w' : World} {dir : Location} {name : Name}
  {id : Nat}

/-- A rollover that has changed nothing, and the same live file goes on. -/
structure Kept (file file' : LiveFile) (id : Nat) (w w' : World) : Prop where
  same : file' = file
  disk : ∃ faults, w'.disk = { w.disk with faults }
  /-- A record goes to the end of the same file, unless the write of it fails. -/
  append : ∀ record,
    (∃ file'' w'' faults, file'.append record w' = (.ok (), file'', w'') ∧
      w''.disk = ({ w.disk with faults } : Disk).setContent id (w.disk.content id ++ record)) ∨
    ∃ cause later, w'.disk.faults = some cause :: later ∧
      (file'.append record w').1 = .error (.os cause)

/-- A rollover after which the live file is closed, and what it held is there. -/
structure Shut (file file' : LiveFile) (pattern : Text) (place : Location) (id : Nat)
    (w w' : World) : Prop where
  closed : file' = { file with handle := none }
  /-- All is as it was, or the content has gone to the name that was chosen for it. -/
  disk : (∃ faults, w'.disk = { w.disk with faults }) ∨
    ∃ target dir name, file.rolledName pattern w = .ok target ∧
      w.disk.Moved w'.disk place id target dir name
  append : ∀ record w, file'.append record w = (.error .closed, file', w)
  rollOver : ∀ pattern w, file'.rollOver pattern w = (.error .closed, file', w)

theorem append_closed (file : LiveFile) (record : Bytes) (w : World) :
    { file with handle := none }.append record w
      = (.error .closed, { file with handle := none }, w) :=
  rfl

theorem rollOver_closed (file : LiveFile) (pattern : Text) (w : World) :
    { file with handle := none }.rollOver pattern w
      = (.error .closed, { file with handle := none }, w) :=
  rfl

theorem kept_of_faults (opened : file.handle = some (.file id))
    (disk : ∃ faults, w'.disk = { w.disk with faults }) : Kept file file id w w' := by
  refine ⟨rfl, disk, fun record => ?_⟩
  obtain ⟨faults, hdisk⟩ := disk
  rcases happend : file.append record w' with ⟨e | _, file'', w''⟩
  · right
    rw [append, opened] at happend
    simp only [World.attempt, Disk.attempt, hdisk] at happend ⊢
    rcases faults with _ | ⟨_ | cause, later⟩
    · simp [Disk.write] at happend
    · simp [Disk.write] at happend
    · simp only [Prod.mk.injEq, Except.error.injEq] at happend
      exact ⟨cause, later, rfl, by rw [happend.1]⟩
  · obtain ⟨handle, faults', hhandle, hwrite, -⟩ := append_ok happend
    obtain rfl : handle = .file id := Option.some.inj (hhandle.symm.trans opened)
    rw [hdisk, Disk.write, Except.ok.injEq, Prod.mk.injEq] at hwrite
    exact .inl ⟨file'', w'', faults', rfl, hwrite.2.symm⟩

theorem shut_of_disk {place : Location}
    (disk : (∃ faults, w'.disk = { w.disk with faults }) ∨
      ∃ target dir name, file.rolledName pattern w = .ok target ∧
        w.disk.Moved w'.disk place id target dir name) :
    Shut file { file with handle := none } pattern place id w w' :=
  ⟨rfl, disk, append_closed file, rollOver_closed file⟩

/-- A live file goes on or is closed. -/
theorem Kept.not_shut {place : Location} (kept : Kept file file' id w w')
    (opened : file.handle = some (.file id)) : ¬ Shut file file' pattern place id w w' := by
  intro shut
  have heq := kept.same.symm.trans shut.closed
  rw [heq] at opened
  exact absurd opened (by simp)

theorem reopen_error {e : IoError} (h : file.reopen w = (.error e, file', w')) :
    file' = { file with handle := none } ∧ ∃ faults, w'.disk = { w.disk with faults } := by
  rw [reopen] at h
  split at h
  · next e' w₁ hopen =>
    simp only [Prod.mk.injEq] at h
    obtain ⟨-, rfl, rfl⟩ := h
    obtain ⟨faults, rfl⟩ := World.attempt_error hopen
    exact ⟨rfl, faults, rfl⟩
  · exact absurd h (by simp)

theorem reopen_ok (opened : file.handle = some (.file id))
    (names : w.disk.Names file.path dir name id) (h : file.reopen w = (.ok (), file', w')) :
    file' = file ∧ ∃ faults, w'.disk = { w.disk with faults } := by
  rw [reopen] at h
  split at h
  · exact absurd h (by simp)
  · next handle w₁ hopen =>
    simp only [Prod.mk.injEq, true_and] at h
    obtain ⟨rfl, rfl⟩ := h
    obtain ⟨faults, disk, hop, rfl⟩ := World.attempt_ok hopen
    obtain ⟨rfl, rfl⟩ := (names.withFaults faults).openAppend hop
    exact ⟨by rw [← opened], faults, rfl⟩

theorem kept_or_shut {e : IoError} (opened : file.handle = some (.file id))
    (names : w.disk.Names file.path dir name id)
    (h : file.rollOver pattern w = (.error e, file', w')) :
    Kept file file' id w w' ∨ Shut file file' pattern (dir ++ [name]) id w w' := by
  rw [rollOver_eq] at h
  cases hput : file.putAway pattern w with
  | refused e' =>
    rw [hput] at h
    obtain ⟨-, rfl, rfl⟩ : e' = e ∧ file = file' ∧ w = w' := by simpa using h
    exact .inl (kept_of_faults opened ⟨w.disk.faults, rfl⟩)
  | kept e' w₁ =>
    obtain ⟨faults, hdisk⟩ := putAway_kept hput
    have again : ∀ {w₂ : World}, (∃ faults, w₂.disk = { w₁.disk with faults }) →
        ∃ faults, w₂.disk = { w.disk with faults } := by
      rintro w₂ ⟨faults', hdisk'⟩
      exact ⟨faults', by rw [hdisk', hdisk]⟩
    rw [hput] at h
    rcases hreopen : file.reopen w₁ with ⟨e'' | _, file₂, w₂⟩
    · obtain ⟨rfl, hsame⟩ := reopen_error hreopen
      simp only [hreopen, Prod.mk.injEq] at h
      obtain ⟨-, rfl, rfl⟩ := h
      exact .inr (shut_of_disk (.inl (again hsame)))
    · have names' : w₁.disk.Names file.path dir name id := hdisk ▸ names.withFaults faults
      obtain ⟨rfl, hsame⟩ := reopen_ok opened names' hreopen
      simp only [hreopen, Prod.mk.injEq] at h
      obtain ⟨-, rfl, rfl⟩ := h
      exact .inl (kept_of_faults opened (again hsame))
  | moved target w₁ =>
    rw [hput] at h
    rcases hreopen : file.reopen w₁ with ⟨e'' | _, file₂, w₂⟩
    · obtain ⟨rfl, faults', hdisk⟩ := reopen_error hreopen
      simp only [hreopen, Prod.mk.injEq] at h
      obtain ⟨-, rfl, rfl⟩ := h
      obtain ⟨hrolled, faults, hrename⟩ := putAway_ok hput
      have free : ({ w.disk with faults } : Disk).exists? target = false := by
        rw [Disk.exists?_faults, rolledName_free hrolled]
      obtain ⟨dir', name', moved⟩ := (names.withFaults faults).rename free hrename
      refine .inr (shut_of_disk (.inr ⟨target, dir', name', hrolled, ?_⟩))
      rw [hdisk]
      exact moved.withFaults
    · simp [hreopen] at h

end LiveFile

/-- A rollover that fails ends in one of two ways, and in both the sink around the live file, with
its queue, its uploads and its counters, is as it was. -/
theorem rollOver_fails_safely {file : LiveFile} {w : World} {dir : Location} {name : Name}
    {id : Nat} (opened : file.handle = some (.file id))
    (names : w.disk.Names file.path dir name id) :
    (∀ {pattern e file' w'}, file.rollOver pattern w = (.error e, file', w') →
      Xor (file.Kept file' id w w') (file.Shut file' pattern (dir ++ [name]) id w w')) ∧
    ∀ {s e s' w'}, s.live = file → Sink.rollOver s w = (.error e, s', w') →
      s' = { s with live := s'.live } ∧ ∃ e', e = .rollOver e' ∧
        file.rollOver LiveFile.stampPattern w = (.error e', s'.live, w') := by
  refine ⟨fun {pattern e file' w'} h => ?_, fun {s e s' w'} hlive h => ?_⟩
  · rcases LiveFile.kept_or_shut opened names h with kept | shut
    · exact .inl ⟨kept, kept.not_shut opened⟩
    · exact .inr ⟨shut, fun kept => kept.not_shut opened shut⟩
  · rcases s.rollOver_cases w with ⟨e', live, w₁, hroll, heq⟩ | ⟨path, live, w₁, -, heq⟩
    · rw [heq] at h
      obtain ⟨rfl, rfl, rfl⟩ : SinkError.rollOver e' = e ∧ { s with live } = s' ∧ w₁ = w' := by
        simpa using h
      exact ⟨rfl, e', rfl, hlive ▸ hroll⟩
    · rw [heq] at h
      exact absurd h (by simp)

def LiveFile.inStart : LiveFile :=
  { path := ⟨"live".toList⟩, handle := some (.file 0), size := 1, rolledAt := 0
    counters :=
      { name := "live".toList, bytes := 1, records := 1, rollovers := 0, size := 1
        lastRolled := { seconds := 0, nanos := 0 } } }

/-- A world with that live file, in which the third operation fails. -/
def World.thirdFails : World :=
  { World.fresh ['w'] with
    disk :=
      { ((Disk.fresh ['w']).putNewFile [['w'], "live".toList]).1.setContent 0 [97] with
        faults := [none, none, some .noSpace] } }

theorem names_inStart :
    World.thirdFails.disk.Names LiveFile.inStart.path [['w']] "live".toList 0 where
  goal := by decide +kernel
  entry := by decide +kernel
  bare := by
    rw [Disk.Bare]
    decide +kernel

/-- The file has its new name and the live file cannot be opened again. -/
theorem shut_after_rename :
    ∃ e file w, LiveFile.inStart.rollOver LiveFile.stampPattern .thirdFails = (.error e, file, w) ∧
      LiveFile.inStart.Shut file LiveFile.stampPattern [['w'], "live".toList] 0 .thirdFails w ∧
      w.disk.fileAt? [['w'], "live.1970-01-01T00:00:00".toList] = some [97] ∧
      w.disk.node? [['w'], "live".toList] = none := by
  have hfailed : (LiveFile.inStart.rollOver LiveFile.stampPattern .thirdFails).1.isOk = false := by
    decide +kernel
  have hclosed :
      (LiveFile.inStart.rollOver LiveFile.stampPattern .thirdFails).2.1.handle = none := by
    decide +kernel
  have hdisk : (LiveFile.inStart.rollOver LiveFile.stampPattern .thirdFails).2.2.disk.fileAt?
        [['w'], "live.1970-01-01T00:00:00".toList] = some [97] ∧
      (LiveFile.inStart.rollOver LiveFile.stampPattern .thirdFails).2.2.disk.node?
        [['w'], "live".toList] = none := by
    decide +kernel
  have hopened : LiveFile.inStart.handle = some (.file 0) := rfl
  rcases hroll : LiveFile.inStart.rollOver LiveFile.stampPattern .thirdFails with
    ⟨e | path, file, w⟩
  · rw [hroll] at hclosed hdisk
    refine ⟨e, file, w, rfl, ?_, hdisk⟩
    rcases (rollOver_fails_safely hopened names_inStart).1 hroll with ⟨kept, -⟩ | ⟨shut, -⟩
    · rw [kept.same, hopened] at hclosed
      exact absurd hclosed (by simp)
    · exact shut
  · rw [hroll] at hfailed
    exact absurd hfailed Bool.noConfusion

end Outbox
