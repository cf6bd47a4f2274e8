import Mathlib.Data.List.Induction
import Outbox.Proofs.Sink.Course

/-!
# The buffer directory

What a sink relies on in its buffer directory: the live file is a regular file or not there, each
rolled file that may still have to be delivered is a regular file under a name of its own, and what
the live file has put away stays as it was until a destination has taken it. Others may do whatever
leaves the entries of the directory and their contents alone, and so may deliveries (`Hands`).
-/

set_option autoImplicit false

namespace Outbox

/-! ### Deeds that stand -/

/-- The last deeds on a file are that it was closed with a content; no destination has taken it
since. -/
def Standing (deeds : List Deed) (q : Path) (bytes : Bytes) : Prop :=
  ∃ before after, deeds = before ++ .closed q bytes :: after ∧
    ∀ taken, .delivered q taken ∉ after

theorem standing_concat {deeds : List Deed} {deed : Deed} {q : Path} {bytes : Bytes} :
    Standing (deeds ++ [deed]) q bytes ↔
      (Standing deeds q bytes ∧ ∀ taken, deed ≠ .delivered q taken) ∨ deed = .closed q bytes := by
  constructor
  · rintro ⟨before, after, heq, hafter⟩
    rcases List.eq_nil_or_concat after with rfl | ⟨rest, last, rfl⟩
    · obtain ⟨-, hlast⟩ := List.append_inj' heq rfl
      exact .inr (List.cons.inj hlast).1
    · rw [List.concat_eq_append, ← List.cons_append, ← List.append_assoc] at heq
      obtain ⟨hdeeds, hlast⟩ := List.append_inj' heq rfl
      obtain ⟨rfl, -⟩ := List.cons.inj hlast
      refine .inl ⟨⟨before, rest, hdeeds, fun taken h => hafter taken ?_⟩, ?_⟩
      · rw [List.concat_eq_append]
        exact List.mem_append_left _ h
      · rintro taken rfl
        exact hafter taken (by simp)
  · rintro (⟨⟨before, after, rfl, hafter⟩, hdeed⟩ | rfl)
    · refine ⟨before, after ++ [deed], by simp, fun taken h => ?_⟩
      rcases List.mem_append.mp h with h | h
      · exact hafter taken h
      · exact hdeed taken (List.mem_singleton.mp h).symm
    · exact ⟨deeds, [], rfl, by simp⟩

def Unclosing (deeds : List Deed) : Prop :=
  ∀ q bytes, .closed q bytes ∉ deeds

theorem standing_append {deeds more : List Deed} {q : Path} {bytes : Bytes}
    (unclosing : Unclosing more) (h : Standing (deeds ++ more) q bytes) :
    Standing deeds q bytes ∧ ∀ taken, .delivered q taken ∉ more := by
  induction more using List.reverseRecOn with
  | nil => exact ⟨by rwa [List.append_nil] at h, by simp⟩
  | append_singleton more last ih =>
    rw [← List.append_assoc, standing_concat] at h
    rcases h with ⟨h, hlast⟩ | rfl
    · obtain ⟨hdeeds, hmore⟩ := ih (fun q bytes hmem => unclosing q bytes (by simp [hmem])) h
      refine ⟨hdeeds, fun taken hmem => ?_⟩
      rcases List.mem_append.mp hmem with hmem | hmem
      · exact hmore taken hmem
      · exact hlast taken (List.mem_singleton.mp hmem).symm
    · exact absurd (by simp) (unclosing q bytes)

/-! ### Rolled files -/

def Upload.needsFile (u : Upload) : Bool :=
  match u.phase with
  | .ended (.ok ()) => false
  | _ => true

/-- Whether the file of an outcome will go back to the queue. -/
def Outcome.isFailure (outcome : Outcome) : Bool :=
  match outcome.result with
  | .ok () => false
  | .error _ => true

/-- The rolled files that a sink may still have to deliver. -/
def Sink.waiting (s : Sink) : List Path :=
  s.pending ++ (s.uploads.filter Upload.needsFile).map Upload.path
    ++ (s.outcomes.filter Outcome.isFailure).map Outcome.path

theorem mem_waiting {s : Sink} {u : Upload} (hu : u ∈ s.uploads) (hneeds : u.needsFile = true) :
    u.path ∈ s.waiting := by
  rw [Sink.waiting, List.mem_append, List.mem_append]
  exact .inl (.inr (List.mem_map.mpr ⟨u, List.mem_filter.mpr ⟨hu, hneeds⟩, rfl⟩))

/-- A path beside that of the live file leads to a regular file, and to another one. -/
structure Placed (path : Path) (dir : Location) (name : Name) (d : Disk) (q : Path) (other : Name)
    (id : Nat) : Prop where
  beside : path.Beside name q other
  plain : Plain other
  ne : other ≠ name
  node : d.node? (dir ++ [other]) = some (.file id)

namespace Placed

variable {path q : Path} {dir : Location} {name other : Name} {d d' : Disk} {id : Nat}

theorem fileName? (h : Placed path dir name d q other id) : q.fileName? = some other :=
  h.beside.endsIn.fileName? h.plain

theorem of_node (h : Placed path dir name d q other id)
    (hnode : d'.node? (dir ++ [other]) = d.node? (dir ++ [other])) :
    Placed path dir name d' q other id :=
  ⟨h.beside, h.plain, h.ne, hnode.trans h.node⟩

theorem only (h : Placed path dir name d q other id) (site : Site d path dir name) :
    d.Only q dir other :=
  site.beside h.beside h.plain

end Placed

/-- What is left alone when the files of a directory, but for one name, stay as they are. -/
structure Spares (path : Path) (dir : Location) (name : Name) (d d' : Disk) : Prop where
  sound : d'.Sound
  way : ∀ {goal : Goal} {slash : Bool}, d'.goal path = .ok (goal, slash) →
    goal = .entry dir name ∧ slash = false
  entries : ∀ other, d'.node? (dir ++ [other]) = d.node? (dir ++ [other])
  contents : ∀ {other : Name} {id : Nat}, other ≠ name →
    d.node? (dir ++ [other]) = some (.file id) → d'.content id = d.content id

/-- What others may do: leave the files of the buffer directory as they are. -/
structure Untouched (path : Path) (dir : Location) (name : Name) (d d' : Disk) : Prop
    extends Spares path dir name d d' where
  live : ∀ {id : Nat}, d.node? (dir ++ [name]) = some (.file id) → d'.content id = d.content id

/-- Others have left the buffer directory alone. -/
def Hands (path : Path) (dir : Location) (name : Name) (w w' : World) : Prop :=
  Untouched path dir name w.disk w'.disk

section Site

variable {path : Path} {dir : Location} {name : Name} {d : Disk}

theorem Placed.of_spares {q : Path} {other : Name} {d' : Disk} {id : Nat}
    (h : Placed path dir name d q other id) (spares : Spares path dir name d d') :
    Placed path dir name d' q other id :=
  h.of_node (spares.entries other)

theorem Site.of_spares {d' : Disk} (site : Site d path dir name)
    (spares : Spares path dir name d d') : Site d' path dir name :=
  ⟨spares.sound, site.valid, ⟨site.only.endsIn, site.only.plain, spares.way⟩⟩

theorem Site.untouched (site : Site d path dir name) (faults : List (Option OsError)) :
    Untouched path dir name d { d with faults } where
  sound := site.sound.withFaults faults
  way := (site.only.withFaults faults).goal
  entries := fun _ => rfl
  contents := fun _ _ => rfl
  live := fun _ => rfl

end Site

namespace Course

/-- What a sink relies on in its buffer directory, and what it owes to it. -/
structure Buffer (dir : Location) (name : Name) (c : Course) : Prop where
  site : Site c.world.disk c.sink.live.path dir name
  called : c.sink.live.counters.name = name
  entry : c.world.disk.node? (dir ++ [name]) = none ∨
    ∃ id, c.world.disk.node? (dir ++ [name]) = some (.file id)
  handle : ∀ {handle : Handle}, c.sink.live.handle = some handle →
    ∃ id, handle = .file id ∧ c.world.disk.node? (dir ++ [name]) = some (.file id)
  placed : ∀ q ∈ c.sink.waiting, ∃ other id,
    Placed c.sink.live.path dir name c.world.disk q other id
  apart : (c.sink.waiting.map Path.fileName?).Nodup
  reading : ∀ u ∈ c.sink.uploads, ∀ source stage, u.phase = .delivering source stage →
    ∃ other id, Placed c.sink.live.path dir name c.world.disk u.path other id ∧
      source = .file id
  /-- What has been put away and not been taken is there, nobody removes it, and it waits under
  the path that it was given. -/
  standing : ∀ q bytes, Standing c.deeds q bytes → ∃ other id,
    Placed c.sink.live.path dir name c.world.disk q other id ∧
      c.world.disk.content id = bytes ∧
      (∀ u ∈ c.sink.uploads, u.phase = .removing → u.path.fileName? ≠ some other) ∧
      ∀ q' ∈ c.sink.waiting, q'.fileName? = some other → q' = q

/-! ### Steps that move no file -/

/-- What a step leaves of a live file: its path and name, and that it is open or not. -/
structure Remains (file file' : LiveFile) : Prop where
  path : file'.path = file.path
  name : file'.counters.name = file.counters.name
  handle : file'.handle = file.handle ∨ file'.handle = none

theorem Remains.refl (file : LiveFile) : Remains file file :=
  ⟨rfl, rfl, .inl rfl⟩

section Change

variable {dir : Location} {name : Name} {c c' : Course}

/-- A step that leaves the files alone, and only lets go of some, keeps what the sink relies on. -/
theorem Buffer.change (h : Buffer dir name c) (live : Remains c.sink.live c'.sink.live)
    (spares : Spares c.sink.live.path dir name c.world.disk c'.world.disk)
    (waiting : c'.sink.waiting.Subperm c.sink.waiting)
    (reading : ∀ u ∈ c'.sink.uploads, ∀ source stage, u.phase = .delivering source stage →
      ∃ other id, Placed c.sink.live.path dir name c.world.disk u.path other id ∧
        source = .file id)
    (standing : ∀ q bytes, Standing c'.deeds q bytes → Standing c.deeds q bytes ∧
      ∀ u ∈ c'.sink.uploads, u.phase = .removing → u.path.fileName? ≠ q.fileName?) :
    Buffer dir name c' where
  site := by
    rw [live.path]
    exact h.site.of_spares spares
  called := live.name.trans h.called
  entry := by
    rw [spares.entries]
    exact h.entry
  handle := by
    intro handle hhandle
    rw [spares.entries]
    rcases live.handle with heq | hnone
    · rw [heq] at hhandle
      exact h.handle hhandle
    · rw [hnone] at hhandle
      exact absurd hhandle (by simp)
  placed := by
    intro q hq
    rw [live.path]
    obtain ⟨other, id, hplaced⟩ := h.placed q (waiting.subset hq)
    exact ⟨other, id, hplaced.of_spares spares⟩
  apart := by
    obtain ⟨kept, hperm, hkept⟩ := waiting
    exact (hperm.map _).nodup_iff.mp (h.apart.sublist (hkept.map _))
  reading := by
    intro u hu source stage hphase
    rw [live.path]
    obtain ⟨other, id, hplaced, hsource⟩ := reading u hu source stage hphase
    exact ⟨other, id, hplaced.of_spares spares, hsource⟩
  standing := by
    intro q bytes hstanding
    rw [live.path]
    obtain ⟨hbefore, hremoving⟩ := standing q bytes hstanding
    obtain ⟨other, id, hplaced, hbytes, -, hwaiting⟩ := h.standing q bytes hbefore
    refine ⟨other, id, hplaced.of_spares spares, ?_, ?_, ?_⟩
    · rw [spares.contents hplaced.ne hplaced.node, hbytes]
    · intro u hu hphase
      rw [← hplaced.fileName?]
      exact hremoving u hu hphase
    · exact fun q' hq' => hwaiting q' (waiting.subset hq')

theorem Buffer.change_live (h : Buffer dir name c) (live : Remains c.sink.live c'.sink.live)
    (spares : Spares c.sink.live.path dir name c.world.disk c'.world.disk)
    (pending : c'.sink.pending = c.sink.pending) (uploads : c'.sink.uploads = c.sink.uploads)
    (outcomes : c'.sink.outcomes = c.sink.outcomes) {deeds : List Deed}
    (hdeeds : c'.deeds = c.deeds ++ deeds) (unclosing : Unclosing deeds) :
    Buffer dir name c' := by
  refine h.change live spares ?_ ?_ ?_
  · rw [Sink.waiting, Sink.waiting, pending, uploads, outcomes]
  · rw [uploads]
    exact h.reading
  · intro q bytes hstanding
    rw [hdeeds] at hstanding
    have hbefore := (standing_append unclosing hstanding).1
    obtain ⟨other, id, hplaced, -, hremoving, -⟩ := h.standing q bytes hbefore
    rw [uploads, hplaced.fileName?]
    exact ⟨hbefore, hremoving⟩

end Change

end Course

end Outbox
