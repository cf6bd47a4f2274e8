import Outbox.Disk.Operations
import Outbox.Proofs.Disk.Reach

/-!
# Operations on one entry

What an operation has done to the disk when it has succeeded on a path that leads to one name. An
attempt that fails has used up a fault at most.
-/

set_option autoImplicit false

namespace Outbox.Disk

variable {d d' : Disk} {p q : Path} {dir : Location} {name other : Name}

/-! ### Attempts -/

theorem attempt_ok {α : Type} {operation : Disk → Except IoError (α × Disk)} {a : α}
    (h : d.attempt operation = (.ok a, d')) :
    ∃ faults, operation { d with faults } = .ok (a, d') := by
  rw [attempt] at h
  split at h
  · exact absurd h (by simp)
  · next later _ =>
    split at h
    · next a' after hop =>
      simp only [Prod.mk.injEq, Except.ok.injEq] at h
      exact ⟨later, by rw [hop, h.1, h.2]⟩
    · exact absurd h (by simp)
  · next hfaults =>
    split at h
    · next a' after hop =>
      simp only [Prod.mk.injEq, Except.ok.injEq] at h
      refine ⟨d.faults, ?_⟩
      rw [← h.1, ← h.2]
      exact hop
    · exact absurd h (by simp)

theorem attempt_error {α : Type} {operation : Disk → Except IoError (α × Disk)} {e : IoError}
    (h : d.attempt operation = (.error e, d')) : ∃ faults, d' = { d with faults } := by
  rw [attempt] at h
  split at h
  · next later _ =>
    simp only [Prod.mk.injEq] at h
    exact ⟨later, h.2.symm⟩
  · next later _ =>
    split at h
    · exact absurd h (by simp)
    · simp only [Prod.mk.injEq] at h
      exact ⟨later, h.2.symm⟩
  · split at h
    · exact absurd h (by simp)
    · simp only [Prod.mk.injEq] at h
      exact ⟨d.faults, h.2.symm⟩

/-! ### Faults and ways -/

/-- Two disks with the same entries, on which every path is walked in the same way. -/
structure Alike (d d' : Disk) : Prop where
  start : d'.start = d.start
  nodes : ∀ loc, d'.node? loc = d.node? loc

namespace Alike

theorem descend (h : d.Alike d') (loc : Location) (names : List Name) :
    d'.descend loc names = d.descend loc names := by
  induction names generalizing loc with
  | nil => rfl
  | cons name rest ih =>
    rw [Disk.descend, Disk.descend, ih, ih, ih]
    simp only [h.nodes]

theorem approach (h : d.Alike d') (links : Nat) (loc : Location) (names : List Name) :
    d'.approach links loc names = d.approach links loc names := by
  induction links generalizing loc names with
  | zero => rw [approach_eq, approach_eq, h.descend]
  | succ links ih =>
    rw [approach_eq, approach_eq, h.descend]
    simp only [ih]

theorem goal (h : d.Alike d') (p : Path) : d'.goal p = d.goal p := by
  simp only [Disk.goal, route, h.start, h.approach]

theorem nodeIn? (h : d.Alike d') (dir : Location) (name : Name) :
    d'.nodeIn? dir name = d.nodeIn? dir name := by
  rw [Disk.nodeIn?, Disk.nodeIn?, h.nodes]

theorem pursueFrom (h : d.Alike d') (creating : Bool) (turns links : Nat) (r : Route) :
    d'.pursueFrom creating turns links r = d.pursueFrom creating turns links r := by
  induction turns generalizing links r with
  | zero => rfl
  | succ turns ih =>
    rw [Disk.pursueFrom, Disk.pursueFrom, h.approach]
    simp only [h.nodes, h.nodeIn?, ih]

theorem pursue (h : d.Alike d') (creating : Bool) (p : Path) :
    d'.pursue creating p = d.pursue creating p := by
  simp only [Disk.pursue, route, h.start, h.pursueFrom]

theorem exists? (h : d.Alike d') (p : Path) : d'.exists? p = d.exists? p := by
  simp only [Disk.exists?, Disk.find, h.pursue]

end Alike

theorem alike_faults (d : Disk) (faults : List (Option OsError)) : d.Alike { d with faults } :=
  ⟨rfl, fun _ => rfl⟩

@[simp] theorem goal_faults (d : Disk) (faults : List (Option OsError)) (p : Path) :
    ({ d with faults } : Disk).goal p = d.goal p :=
  (alike_faults d faults).goal p

@[simp] theorem find_faults (d : Disk) (faults : List (Option OsError)) (p : Path) :
    ({ d with faults } : Disk).find p = d.find p := by
  simp only [Disk.find, (alike_faults d faults).pursue]

@[simp] theorem exists?_faults (d : Disk) (faults : List (Option OsError)) (p : Path) :
    ({ d with faults } : Disk).exists? p = d.exists? p :=
  (alike_faults d faults).exists? p

theorem Only.of_alike (only : d.Only p dir name) (alike : d.Alike d') : d'.Only p dir name :=
  ⟨only.endsIn, only.plain, fun h => only.goal (by rwa [alike.goal] at h)⟩

theorem Only.withFaults (only : d.Only p dir name) (faults : List (Option OsError)) :
    ({ d with faults } : Disk).Only p dir name :=
  only.of_alike (alike_faults d faults)

/-! ### One entry -/

section Entry

/-- The entry at a location is no link. -/
def Linkless (d : Disk) (loc : Location) : Prop :=
  ∀ target, d.node? loc ≠ some (.link target)

/-- A file that is opened for writing is there, or is made. -/
theorem Only.openForWriting {handle : Handle} (only : d.Only p dir name)
    (hlink : d.Linkless (dir ++ [name])) (h : openForWriting p d = .ok (handle, d')) :
    (∃ node, d.node? (dir ++ [name]) = some node ∧ writable node = .ok handle ∧ d' = d) ∨
      (d.node? (dir ++ [name]) = none ∧ d.node? dir = some .dir ∧
        handle = .file d.contents.length ∧ d' = (d.putNewFile (dir ++ [name])).1) := by
  rw [Disk.openForWriting] at h
  cases hpursue : d.pursue true p with
  | error e => rw [hpursue] at h; exact absurd h (by simp)
  | ok found =>
    obtain ⟨hgoal, -, rfl⟩ := only.pursue hlink hpursue
    rw [hpursue] at h
    cases hnode : d.node? (dir ++ [name]) with
    | none =>
      rw [hnode] at h
      simp only [Except.ok.injEq, Prod.mk.injEq] at h
      exact .inr ⟨rfl, isDir_of_goal hgoal, h.1.symm, h.2.symm⟩
    | some node =>
      rw [hnode] at h
      cases hwritable : writable node with
      | error e => simp [hwritable, Except.map] at h
      | ok handle' =>
        simp only [hwritable, Except.map, Except.ok.injEq, Prod.mk.injEq] at h
        exact .inl ⟨node, rfl, by rw [← h.1, hwritable], h.2.symm⟩

/-- A regular file that is opened for writing stays as it is. -/
theorem Only.openForWriting_file {handle : Handle} {id : Nat} (only : d.Only p dir name)
    (hnode : d.node? (dir ++ [name]) = some (.file id))
    (h : Disk.openForWriting p d = .ok (handle, d')) : handle = .file id ∧ d' = d := by
  have hlink : d.Linkless (dir ++ [name]) := by
    intro target
    rw [hnode]
    simp
  rcases only.openForWriting hlink h with ⟨node, hnode', hwritable, rfl⟩ | ⟨hnone, -⟩
  · rw [hnode, Option.some.injEq] at hnode'
    subst hnode'
    simp only [writable, Except.ok.injEq] at hwritable
    exact ⟨hwritable.symm, rfl⟩
  · rw [hnode] at hnone
    exact absurd hnone (by simp)

theorem Only.find {node : Node} {loc : Location} (only : d.Only p dir name)
    (hlink : d.Linkless (dir ++ [name])) (h : d.find p = .ok (loc, node)) :
    loc = dir ++ [name] ∧ d.node? (dir ++ [name]) = some node := by
  rw [Disk.find] at h
  cases hpursue : d.pursue false p with
  | error e => rw [hpursue] at h; exact absurd h (by simp)
  | ok found =>
    obtain ⟨-, -, rfl⟩ := only.pursue hlink hpursue
    rw [hpursue] at h
    cases hnode : d.node? (dir ++ [name]) with
    | none => rw [hnode] at h; exact absurd h (by simp)
    | some node' =>
      rw [hnode] at h
      simp only [Except.ok.injEq, Prod.mk.injEq] at h
      exact ⟨h.1.symm, by rw [h.2]⟩

theorem Only.openRead_file {handle : Handle} {id : Nat} (only : d.Only p dir name)
    (hnode : d.node? (dir ++ [name]) = some (.file id))
    (h : openRead p d = .ok (handle, d')) : handle = .file id ∧ d' = d := by
  have hlink : d.Linkless (dir ++ [name]) := by
    intro target
    rw [hnode]
    simp
  rw [openRead] at h
  cases hfind : d.find p with
  | error e => rw [hfind] at h; exact absurd h (by simp)
  | ok found =>
    obtain ⟨loc, node⟩ := found
    obtain ⟨-, hnode'⟩ := only.find hlink hfind
    rw [hnode, Option.some.injEq] at hnode'
    subst hnode'
    rw [hfind] at h
    simp only [Except.ok.injEq, Prod.mk.injEq] at h
    exact ⟨h.1.symm, h.2.symm⟩

theorem Only.remove (only : d.Only p dir name) (h : remove p d = .ok ((), d')) :
    (∃ node, d.node? (dir ++ [name]) = some node ∧ node ≠ .dir) ∧
      d' = d.take (dir ++ [name]) := by
  rw [Disk.remove] at h
  cases hgoal : d.goal p with
  | error e => rw [hgoal] at h; exact absurd h (by simp)
  | ok found =>
    obtain ⟨goal, slash⟩ := found
    obtain ⟨rfl, rfl⟩ := only.goal hgoal
    simp only [hgoal] at h
    cases hentry : d.nodeIn? dir name with
    | error e => rw [hentry] at h; exact absurd h (by simp)
    | ok node =>
      obtain ⟨rfl, -⟩ := nodeIn?_ok hentry
      rw [hentry] at h
      cases hnode : d.node? (dir ++ [name]) with
      | none => rw [hnode] at h; exact absurd h (by simp)
      | some node =>
        rw [hnode] at h
        by_cases hdir : node = .dir
        · subst hdir
          exact absurd h (by simp)
        · refine ⟨⟨node, rfl, hdir⟩, ?_⟩
          cases node with
          | dir => exact absurd rfl hdir
          | file id => simpa using h.symm
          | link target => simpa using h.symm
          | full => simpa using h.symm

theorem rename_ok (h : rename p q d = .ok ((), d')) :
    ∃ dir name slash node dir' name' slash', d.goal p = .ok (.entry dir name, slash) ∧
      d.nodeIn? dir name = .ok (some node) ∧ d.goal q = .ok (.entry dir' name', slash') ∧
      d.nodeIn? dir' name' = .ok (d.node? (dir' ++ [name'])) ∧
      d.moveOnto (dir ++ [name]) (dir' ++ [name']) node (d.node? (dir' ++ [name']))
        (slash || slash') = .ok ((), d') := by
  rw [rename] at h
  cases hgoal : d.goal p with
  | error e => rw [hgoal] at h; exact absurd h (by simp)
  | ok found =>
    obtain ⟨old, slash⟩ := found
    cases hgoal' : d.goal q with
    | error e => simp [hgoal, hgoal'] at h
    | ok found' =>
      obtain ⟨new, slash'⟩ := found'
      simp only [hgoal, hgoal'] at h
      split at h
      · next dir name dir' name' =>
        cases hentry : d.nodeIn? dir name with
        | error e => simp [hentry] at h
        | ok node =>
          cases node with
          | none => simp [hentry] at h
          | some node =>
            cases hentry' : d.nodeIn? dir' name' with
            | error e => simp [hentry, hentry'] at h
            | ok taken =>
              obtain ⟨rfl, -⟩ := nodeIn?_ok hentry'
              simp only [hentry, hentry'] at h
              exact ⟨dir, name, slash, node, dir', name', slash', rfl, hentry, rfl, hentry', h⟩
      · exact absurd h (by simp)

/-- What is no directory takes the place of anything else. -/
theorem moveOnto_ok {old new : Location} {node : Node} {taken : Option Node} {slash : Bool}
    (hnode : node ≠ .dir) (h : d.moveOnto old new node taken slash = .ok ((), d')) :
    slash = false ∧
      ((old = new ∧ d' = d) ∨ (old ≠ new ∧ taken ≠ some .dir ∧ d' = d.move old new)) := by
  rw [moveOnto.eq_def] at h
  split at h
  · exact absurd h (by simp)
  next hslash =>
  refine ⟨by simpa [hnode] using hslash, ?_⟩
  split at h
  · exact absurd h (by simp)
  split at h
  · exact absurd h (by simp)
  split at h
  · next heq => exact .inl ⟨heq, by simpa using h.symm⟩
  next hne =>
  refine .inr ⟨hne, ?_⟩
  cases taken with
  | none => exact ⟨by simp, by simpa using h.symm⟩
  | some other => cases node <;> cases other <;> simp_all [mayReplace, Except.map]

theorem Only.rename (only : d.Only p dir name) (only' : d.Only q dir other)
    (hdir : d.node? (dir ++ [name]) ≠ some .dir) (ne : name ≠ other)
    (h : rename p q d = .ok ((), d')) :
    (∃ node, d.nodeIn? dir name = .ok (some node)) ∧ d.goal q = .ok (.entry dir other, false) ∧
      d.nodeIn? dir other = .ok (d.node? (dir ++ [other])) ∧
      d.node? (dir ++ [other]) ≠ some .dir ∧ d' = d.move (dir ++ [name]) (dir ++ [other]) := by
  obtain ⟨dir₁, name₁, slash, node, dir₂, name₂, slash', hgoal, hmoved, hgoal', hentry, hmove⟩ :=
    rename_ok h
  obtain ⟨heq, rfl⟩ := only.goal hgoal
  obtain ⟨heq', rfl⟩ := only'.goal hgoal'
  rw [Goal.entry.injEq] at heq heq'
  obtain ⟨rfl, rfl⟩ := heq
  obtain ⟨rfl, rfl⟩ := heq'
  rw [← (nodeIn?_ok hmoved).1, ne_eq, Option.some.injEq] at hdir
  obtain ⟨-, ⟨heq, -⟩ | ⟨-, htaken, rfl⟩⟩ := moveOnto_ok hdir hmove
  · exact absurd (by simpa using heq) ne
  · exact ⟨⟨node, hmoved⟩, hgoal', hentry, htaken, rfl⟩

end Entry

end Outbox.Disk
