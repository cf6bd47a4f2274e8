import Mathlib.Data.List.Nodup
import Mathlib.Logic.Relation
import Outbox.Proofs.Destination.Archive

/-!
# Deliveries side by side

Several deliveries to one archive take their turns in any order, and others act in between. Each
works on two names in the directory of the archive, and the names of rolled files and of their
unfinished copies are all different: a rolled name ends in a digit. So what one delivery needs is
left alone by all others (`Sits.of_unaltered`), and the turns of one are as if it were by itself
(`Sits.turn`). The deliveries may stop after any turn, and a crash may leave any part of the copies
that were being made (`Torn`).
-/

set_option autoImplicit false

namespace Outbox

/-- An entry is as it was, a file with what it holds. -/
structure Disk.Unaltered (d d' : Disk) (loc : Location) : Prop where
  node : d'.node? loc = d.node? loc
  content : ∀ {id : Nat}, d.node? loc = some (.file id) → d'.content id = d.content id

namespace Disk.Unaltered

variable {d d' d'' : Disk} {loc : Location}

theorem refl (d : Disk) (loc : Location) : d.Unaltered d loc :=
  ⟨rfl, fun _ => rfl⟩

theorem trans (h : d.Unaltered d' loc) (h' : d'.Unaltered d'' loc) : d.Unaltered d'' loc :=
  ⟨h'.node.trans h.node, fun hnode => (h'.content (h.node.trans hnode)).trans (h.content hnode)⟩

theorem of_alters {places : Location → Prop} (alters : Alters places d d') (hloc : ¬ places loc) :
    d.Unaltered d' loc :=
  ⟨alters.nodes hloc, alters.contents hloc⟩

theorem fileAt? (h : d.Unaltered d' loc) : d'.fileAt? loc = d.fileAt? loc :=
  fileAt?_congr h.node h.content

theorem linkless (h : d.Unaltered d' loc) (linkless : d.Linkless loc) : d'.Linkless loc :=
  fun target hnode => linkless target (h.node.symm.trans hnode)

end Disk.Unaltered

namespace Archive

theorem unfinished_injective {name name' : Name} (h : unfinished name = unfinished name') :
    name = name' :=
  List.append_cancel_right h

/-! ### What a turn counts -/

/-- What a turn of a delivery does to the archive itself. Only the last turn can succeed. -/
inductive Counts (a : Archive) (stage : Delivery) : Turn → Archive → Prop where
  | next (stage' : Delivery) : Counts a stage (.next stage') a
  | failed (e : UploadError) :
      Counts a stage (.ended (.error e)) { a with tally := a.tally.failed }
  | took (n : Nat) (named : stage = .naming n) :
      Counts a stage (.ended (.ok ())) { a with tally := a.tally.took n }

theorem Counts.naming {a a' : Archive} {stage : Delivery} {turn : Turn}
    (h : Counts a stage turn a') (hok : turn = .ended (.ok ())) : ∃ n, stage = .naming n := by
  cases h with
  | next stage' => exact absurd hok (by simp)
  | failed e => exact absurd hok (by simp)
  | took n named => exact ⟨n, named⟩

/-- The number of bytes that a delivery has noted is that of the file. -/
def Noted (bytes : Bytes) : Turn → Prop
  | .next (.syncing _ n) => n = bytes.length
  | .next (.naming n) => n = bytes.length
  | _ => True

section Turn

variable {a : Archive} {path : Path} {stage : Delivery} {w w' : World}

theorem turn_counts (source : Handle) :
    Counts a stage (a.turn path source stage w).1 (a.turn path source stage w).2.1 := by
  rw [turn]
  split
  · exact .failed _
  cases stage with
  | begun =>
    dsimp only
    split
    · exact .failed _
    · exact .next _
  | copying out =>
    dsimp only
    split
    · exact .failed _
    · exact .next _
  | syncing out n =>
    dsimp only
    split
    · exact .failed _
    · exact .next _
  | naming n =>
    dsimp only
    split
    · exact .failed _
    · exact .took n rfl
  | held => exact .next _

theorem length_of_copyContent {out : Handle} {id n : Nat}
    (h : copyContent (.file id) out w = (.ok n, w')) : n = (w.disk.content id).length := by
  rw [copyContent] at h
  split at h
  · exact absurd h (by simp)
  · next content w₁ hread =>
    obtain ⟨faults, disk, hop, -⟩ := World.attempt_ok hread
    simp only [Disk.read, Except.ok.injEq, Prod.mk.injEq] at hop
    split at h
    · exact absurd h (by simp)
    · simp only [Prod.mk.injEq, Except.ok.injEq] at h
      rw [← h.1, ← hop.1]
      rfl

theorem turn_noted {id : Nat} (h : Noted (w.disk.content id) (.next stage)) :
    Noted (w.disk.content id) (a.turn path (.file id) stage w).1 := by
  rw [turn]
  split
  · trivial
  cases stage with
  | begun =>
    dsimp only
    split <;> trivial
  | copying out =>
    dsimp only
    split
    · trivial
    · next hcopy => exact length_of_copyContent hcopy
  | syncing out n =>
    dsimp only
    split
    · trivial
    · exact h
  | naming n =>
    dsimp only
    split <;> trivial
  | held => trivial

/-- A delivery that has ended with a success has left no unfinished copy. -/
theorem turn_clears {dest : Location} {name : Name} {bytes : Bytes} {source : Handle}
    (sound : w.disk.Sound) (leads : Leads w.disk a.directory dest) (plain : Plain name)
    (hname : path.fileName? = some name)
    (copied : Copied dest name bytes w.disk (.delivering source stage))
    (hok : (a.turn path source stage w).1 = .ended (.ok ())) :
    (a.turn path source stage w).2.2.disk.node? (dest ++ [unfinished name]) = none := by
  obtain ⟨n, rfl⟩ := (turn_counts source).naming hok
  obtain ⟨k, hnode, -⟩ := Disk.node_of_fileAt? copied
  simp only [turn, uploadName, hname] at hok ⊢
  cases hrename : w.attempt (Disk.rename (a.partialPath name) (a.finalPath name)) with
  | mk result w' =>
    rw [hrename] at hok
    cases result with
    | error e => exact absurd hok (by simp [refuse])
    | ok =>
      obtain ⟨-, -, hgone, -⟩ := renamed sound leads plain hnode hrename
      exact hgone

end Turn

/-! ### Deliveries and batches -/

/-- The delivery of an open regular file: how it goes on, or how it has ended. -/
structure Job where
  path : Path
  /-- The number of the content. -/
  file : Nat
  turn : Turn

namespace Job

def succeeded (job : Job) : Bool :=
  match job.turn with
  | .ended (.ok ()) => true
  | _ => false

def failed (job : Job) : Bool :=
  match job.turn with
  | .ended (.error _) => true
  | _ => false

theorem turn_of_succeeded {job : Job} (h : job.succeeded = true) : job.turn = .ended (.ok ()) := by
  rw [succeeded] at h
  split at h
  · next hturn => exact hturn
  · exact absurd h (by simp)

end Job

structure Batch where
  archive : Archive
  world : World
  jobs : List Job

namespace Batch

def go (s : Batch) (before : List Job) (job : Job) (stage : Delivery) (after : List Job) : Batch :=
  let result := s.archive.turn job.path (.file job.file) stage s.world
  { archive := result.2.1, world := result.2.2
    jobs := before ++ { job with turn := result.1 } :: after }

/-- A file of a batch, and its names in the archive. -/
def Touches (dir dest : Location) (s : Batch) (loc : Location) : Prop :=
  ∃ job ∈ s.jobs, ∃ name, job.path.fileName? = some name ∧
    (loc = dir ++ [name] ∨ loc = dest ++ [name] ∨ loc = dest ++ [unfinished name])

/-- Others have left alone what a batch uses. -/
structure LeftAlone (dir dest : Location) (s : Batch) (w : World) : Prop where
  sound : w.disk.Sound
  leads : Leads w.disk s.archive.directory dest
  unaltered : ∀ loc, s.Touches dir dest loc → s.world.disk.Unaltered w.disk loc

/-- One turn of one delivery, or something that others do. -/
inductive Step (dir dest : Location) : Batch → Batch → Prop where
  | turn (s : Batch) (before : List Job) (job : Job) (stage : Delivery) (after : List Job)
      (among : s.jobs = before ++ job :: after) (going : job.turn = .next stage) :
      Step dir dest s (s.go before job stage after)
  | others (s : Batch) (w : World) (leftAlone : s.LeftAlone dir dest w) :
      Step dir dest s { s with world := w }

/-- What a crash can leave: the copies that were being made may hold anything. -/
def Torn (dest : Location) (s : Batch) (d : Disk) : Prop :=
  Disk.Alters (fun loc => ∃ job ∈ s.jobs, (∃ stage, job.turn = .next stage) ∧
    ∃ name, job.path.fileName? = some name ∧ loc = dest ++ [unfinished name]) s.world.disk d

/-- Deliveries that have not begun, of regular files in one directory under the names of rolled
files, to an archive in another directory, where no link has the name of an unfinished copy. -/
structure Unbegun (dir dest : Location) (s : Batch) : Prop where
  sound : s.world.disk.Sound
  leads : Leads s.world.disk s.archive.directory dest
  apart : dir ≠ dest
  distinct : (s.jobs.map fun job => job.path.fileName?).Nodup
  jobs : ∀ job ∈ s.jobs, job.turn = .next .begun ∧ ∃ base name, Follows base name ∧
    job.path.fileName? = some name ∧
    s.world.disk.node? (dir ++ [name]) = some (.file job.file) ∧
    s.world.disk.Linkless (dest ++ [unfinished name])

end Batch

/-! ### One delivery among others -/

/-- How a delivery stands on a disk, when it began on another one. -/
structure Sits (dir dest : Location) (d₀ d : Disk) (job : Job) (name : Name) : Prop where
  called : job.path.fileName? = some name
  rolled : ∃ base, Follows base name
  plain : Plain name
  node : d₀.node? (dir ++ [name]) = some (.file job.file)
  source : d₀.Unaltered d (dir ++ [name])
  linkless : d.Linkless (dest ++ [unfinished name])
  copied : Copied dest name (d₀.content job.file) d (Upload.afterTurn (.file job.file) job.turn)
  noted : Noted (d₀.content job.file) job.turn
  cleared : job.turn = .ended (.ok ()) → d.node? (dest ++ [unfinished name]) = none
  waits : job.turn ≠ .ended (.ok ()) → d₀.Unaltered d (dest ++ [name])

section Sits

variable {dir dest : Location} {d₀ d d' : Disk} {job job' : Job} {name name' : Name}

theorem Sits.content (h : Sits dir dest d₀ d job name) :
    d.content job.file = d₀.content job.file :=
  h.source.content h.node

theorem Sits.of_unaltered (h : Sits dir dest d₀ d job name)
    (source : d.Unaltered d' (dir ++ [name])) (final : d.Unaltered d' (dest ++ [name]))
    (unfinished : d.Unaltered d' (dest ++ [unfinished name])) : Sits dir dest d₀ d' job name where
  called := h.called
  rolled := h.rolled
  plain := h.plain
  node := h.node
  source := h.source.trans source
  linkless := unfinished.linkless h.linkless
  copied := h.copied.of_same unfinished.node unfinished.content final.fileAt?
  noted := h.noted
  cleared := fun hok => unfinished.node.trans (h.cleared hok)
  waits := fun hwait => (h.waits hwait).trans final

/-- The two names of a delivery in the archive are those of no other one, and none of the files. -/
theorem Sits.elsewhere (h : Sits dir dest d₀ d job name) (h' : Sits dir dest d₀ d job' name')
    (apart : dir ≠ dest) (ne : name ≠ name') {loc : Location}
    (hloc : loc = dest ++ [unfinished name'] ∨ loc = dest ++ [name']) :
    loc ≠ dir ++ [name] ∧ loc ≠ dest ++ [name] ∧ loc ≠ dest ++ [unfinished name] := by
  have hdir : ∀ {other other' : Name}, dest ++ [other] ≠ dir ++ [other'] :=
    fun heq => apart (List.append_inj' heq rfl).1.symm
  have hname : ∀ {other other' : Name}, other ≠ other' → dest ++ [other] ≠ dest ++ [other'] :=
    fun hne heq => hne (by simpa using heq)
  obtain ⟨base, follows⟩ := h.rolled
  obtain ⟨base', follows'⟩ := h'.rolled
  rcases hloc with rfl | rfl
  · exact ⟨hdir, hname (follows.ne_unfinished _).symm,
      hname fun heq => ne (unfinished_injective heq).symm⟩
  · exact ⟨hdir, hname ne.symm, hname (follows'.ne_unfinished _)⟩

/-- What a turn alters, when it is that of a delivery among others. -/
theorem Sits.proceeds {a : Archive} {w : World} {stage : Delivery}
    (h : Sits dir dest d₀ w.disk job name) (sound : w.disk.Sound)
    (leads : Leads w.disk a.directory dest) (going : job.turn = .next stage) :
    Proceeds a dest name (d₀.content job.file) (.file job.file) w
      (a.turn job.path (.file job.file) stage w) := by
  have copied := h.copied
  rw [going] at copied
  exact turn_proceeds sound leads h.plain h.called h.linkless rfl h.content copied

theorem Sits.turn {a : Archive} {w : World} {stage : Delivery}
    (h : Sits dir dest d₀ w.disk job name) (sound : w.disk.Sound)
    (leads : Leads w.disk a.directory dest) (apart : dir ≠ dest)
    (going : job.turn = .next stage) :
    Sits dir dest d₀ (a.turn job.path (.file job.file) stage w).2.2.disk
      { job with turn := (a.turn job.path (.file job.file) stage w).1 } name := by
  have proceeds := h.proceeds sound leads going
  have copied := h.copied
  have noted := h.noted
  rw [going] at copied noted
  have hsource : ¬ (dir ++ [name] = dest ++ [unfinished name] ∨ (dir ++ [name] = dest ++ [name] ∧
      (a.turn job.path (.file job.file) stage w).1 = .ended (.ok ()))) := by
    rintro (heq | ⟨heq, -⟩)
    · exact apart (List.append_inj' heq rfl).1
    · exact apart (List.append_inj' heq rfl).1
  refine
    { called := h.called
      rolled := h.rolled
      plain := h.plain
      node := h.node
      source := h.source.trans (.of_alters proceeds.alters hsource)
      linkless := proceeds.alters.linkless h.linkless
      copied := proceeds.copied
      noted := ?_
      cleared := turn_clears sound leads h.plain h.called copied
      waits := fun hwait => ?_ }
  · rw [← h.content] at noted ⊢
    exact turn_noted noted
  · refine (h.waits (by simp [going])).trans (.of_alters proceeds.alters ?_)
    rintro (heq | ⟨-, hok⟩)
    · exact unfinished_ne name (by simpa using heq.symm)
    · exact hwait hok

end Sits

/-! ### Whole batches -/

namespace Batch

structure Counted (s₀ s : Batch) : Prop where
  files : s.archive.tally.files
    = s₀.archive.tally.files + (s.jobs.filter Job.succeeded).length
  bytes : s.archive.tally.bytes = s₀.archive.tally.bytes
    + ((s.jobs.filter Job.succeeded).flatMap fun job => s₀.world.disk.content job.file).length
  failures : s.archive.tally.failures
    = s₀.archive.tally.failures + (s.jobs.filter Job.failed).length

/-- How a batch stands that began as another one. -/
structure Going (dir dest : Location) (s₀ s : Batch) : Prop where
  sound : s.world.disk.Sound
  leads : Leads s.world.disk s.archive.directory dest
  apart : dir ≠ dest
  distinct : (s.jobs.map fun job => job.path.fileName?).Nodup
  sits : ∀ job ∈ s.jobs, ∃ name, Sits dir dest s₀.world.disk s.world.disk job name
  counted : Counted s₀ s

section Going

variable {dir dest : Location} {s₀ s s' : Batch}

theorem Unbegun.going (unbegun : s.Unbegun dir dest) : Going dir dest s s := by
  have none : ∀ {p : Job → Bool}, (∀ job, job.turn = .next .begun → p job = false) →
      s.jobs.filter p = [] := by
    intro p hp
    rw [List.filter_eq_nil_iff]
    intro job hjob
    rw [hp job (unbegun.jobs job hjob).1]
    simp
  have hsucceeded : s.jobs.filter Job.succeeded = [] :=
    none fun job hturn => by rw [Job.succeeded, hturn]
  have hfailed : s.jobs.filter Job.failed = [] :=
    none fun job hturn => by rw [Job.failed, hturn]
  refine ⟨unbegun.sound, unbegun.leads, unbegun.apart, unbegun.distinct, fun job hjob => ?_, ?_⟩
  · obtain ⟨hturn, base, name, follows, called, node, linkless⟩ := unbegun.jobs job hjob
    exact ⟨name,
      { called, node, linkless
        rolled := ⟨base, follows⟩
        plain := unbegun.sound.plain node
        source := .refl _ _
        copied := by rw [hturn]; trivial
        noted := by rw [hturn]; trivial
        cleared := fun hok => absurd (hturn.symm.trans hok) (by simp)
        waits := fun _ => .refl _ _ }⟩
  · constructor <;> simp [hsucceeded, hfailed]

/-- Two deliveries of a batch have files of different names. -/
theorem Going.ne {before after : List Job} {job job' : Job} {name name' : Name}
    (h : Going dir dest s₀ s) (among : s.jobs = before ++ job :: after)
    (hjob' : job' ∈ before ++ after) (called : job.path.fileName? = some name)
    (called' : job'.path.fileName? = some name') : name' ≠ name := by
  rintro rfl
  have hdistinct := h.distinct
  rw [among, (List.perm_middle.map _).nodup_iff, List.map_cons, List.nodup_cons] at hdistinct
  exact hdistinct.1 (List.mem_map.mpr ⟨job', hjob', called'.trans called.symm⟩)

theorem Going.counted_go {before after : List Job} {job : Job} {stage : Delivery}
    (h : Going dir dest s₀ s) (among : s.jobs = before ++ job :: after)
    (going : job.turn = .next stage) : Counted s₀ (s.go before job stage after) := by
  obtain ⟨name, sits⟩ := h.sits job (by simp [among])
  have noted := sits.noted
  obtain ⟨hfiles, hbytes, hfailures⟩ := h.counted
  have hsucceeded : job.succeeded = false := by rw [Job.succeeded, going]
  have hfailed : job.failed = false := by rw [Job.failed, going]
  have counts : Counts s.archive stage
      (s.archive.turn job.path (.file job.file) stage s.world).1
      (s.archive.turn job.path (.file job.file) stage s.world).2.1 := turn_counts (.file job.file)
  simp only [among, List.filter_append, List.filter_cons, hsucceeded, hfailed, Bool.false_eq_true,
    if_false, List.length_append, List.flatMap_append] at hfiles hbytes hfailures
  rw [going] at noted
  rw [go]
  generalize s.archive.turn job.path (.file job.file) stage s.world = result at counts ⊢
  obtain ⟨turn, a, w⟩ := result
  cases counts with
  | next stage' =>
    constructor
    all_goals simp [Job.succeeded, Job.failed, List.filter_append, hfiles, hbytes, hfailures]
  | failed e =>
    constructor
    all_goals simp [Job.succeeded, Job.failed, List.filter_append, List.filter_cons, Tally.failed,
      hfiles, hbytes, hfailures]
    omega
  | took n named =>
    subst named
    have hn : n = (s₀.world.disk.content job.file).length := noted
    constructor
    all_goals simp [Job.succeeded, Job.failed, List.filter_append, List.filter_cons, Tally.took,
      hfiles, hbytes, hfailures, hn]
    all_goals omega

theorem Going.go {before after : List Job} {job : Job} {stage : Delivery}
    (h : Going dir dest s₀ s) (among : s.jobs = before ++ job :: after)
    (going : job.turn = .next stage) : Going dir dest s₀ (s.go before job stage after) := by
  obtain ⟨name, sits⟩ := h.sits job (by simp [among])
  have proceeds := sits.proceeds h.sound h.leads going
  refine
    { sound := proceeds.alters.sound
      leads := ?_
      apart := h.apart
      distinct := ?_
      sits := fun job' hjob' => ?_
      counted := h.counted_go among going }
  · have hdirectory : (s.go before job stage after).archive.directory = s.archive.directory :=
      proceeds.directory
    rw [hdirectory]
    exact h.leads.of_narrows proceeds.alters.narrows
  · have hdistinct := h.distinct
    rw [among] at hdistinct
    simpa only [Batch.go, List.map_append, List.map_cons] using hdistinct
  · rcases List.mem_cons.mp (List.perm_middle.mem_iff.mp hjob') with rfl | hjob'
    · exact ⟨name, sits.turn h.sound h.leads h.apart going⟩
    obtain ⟨name', sits'⟩ := h.sits job' (by
      rw [among, List.perm_middle.mem_iff]
      exact List.mem_cons_of_mem _ hjob')
    have hne := h.ne among hjob' sits.called sits'.called
    have aside : ∀ {loc : Location}, (loc = dir ++ [name'] ∨ loc = dest ++ [name'] ∨
        loc = dest ++ [unfinished name']) →
        s.world.disk.Unaltered (s.go before job stage after).world.disk loc := by
      intro loc hloc
      refine .of_alters proceeds.alters fun hown => ?_
      obtain ⟨hsource, hfinal, hpartial⟩ :=
        sits'.elsewhere sits h.apart hne (hown.imp_right And.left)
      rcases hloc with rfl | rfl | rfl
      · exact hsource rfl
      · exact hfinal rfl
      · exact hpartial rfl
    exact ⟨name', sits'.of_unaltered (aside (.inl rfl)) (aside (.inr (.inl rfl)))
      (aside (.inr (.inr rfl)))⟩

theorem Going.others {w : World} (h : Going dir dest s₀ s) (leftAlone : s.LeftAlone dir dest w) :
    Going dir dest s₀ { s with world := w } where
  sound := leftAlone.sound
  leads := leftAlone.leads
  apart := h.apart
  distinct := h.distinct
  sits := by
    intro job hjob
    obtain ⟨name, sits⟩ := h.sits job hjob
    have uses : ∀ {loc : Location}, (loc = dir ++ [name] ∨ loc = dest ++ [name] ∨
        loc = dest ++ [unfinished name]) → s.world.disk.Unaltered w.disk loc :=
      fun hloc => leftAlone.unaltered _ ⟨job, hjob, name, sits.called, hloc⟩
    exact ⟨name, sits.of_unaltered (uses (.inl rfl)) (uses (.inr (.inl rfl)))
      (uses (.inr (.inr rfl)))⟩
  counted := ⟨h.counted.files, h.counted.bytes, h.counted.failures⟩

theorem Going.step (h : Going dir dest s₀ s) (step : Step dir dest s s') :
    Going dir dest s₀ s' := by
  cases step with
  | turn before job stage after among going => exact h.go among going
  | others w leftAlone => exact h.others leftAlone

theorem Going.reached (h : Going dir dest s₀ s)
    (reached : Relation.ReflTransGen (Step dir dest) s s') : Going dir dest s₀ s' := by
  induction reached with
  | refl => exact h
  | tail _ step ih => exact ih.step step

theorem Step.files (step : Step dir dest s s') :
    (s'.jobs.map fun job => (job.path, job.file)) = s.jobs.map fun job => (job.path, job.file) := by
  cases step with
  | turn before job stage after among going => simp [Batch.go, among]
  | others w leftAlone => rfl

theorem files_of_reached (reached : Relation.ReflTransGen (Step dir dest) s s') :
    (s'.jobs.map fun job => (job.path, job.file)) = s.jobs.map fun job => (job.path, job.file) := by
  induction reached with
  | refl => rfl
  | tail _ step ih => exact step.files.trans ih

/-- A crash leaves the files and what has been delivered as they are. -/
theorem Going.torn {d : Disk} {job : Job} {name : Name} (h : Going dir dest s₀ s)
    (torn : s.Torn dest d) (hjob : job ∈ s.jobs)
    (sits : Sits dir dest s₀.world.disk s.world.disk job name) :
    s.world.disk.Unaltered d (dir ++ [name]) ∧ s.world.disk.Unaltered d (dest ++ [name]) ∧
      (job.turn = .ended (.ok ()) → s.world.disk.Unaltered d (dest ++ [unfinished name])) := by
  refine ⟨.of_alters torn ?_, .of_alters torn ?_, fun hok => .of_alters torn ?_⟩
  · rintro ⟨job', -, -, name', -, heq⟩
    exact h.apart (List.append_inj' heq rfl).1
  · rintro ⟨job', -, -, name', -, heq⟩
    obtain ⟨base, follows⟩ := sits.rolled
    exact follows.ne_unfinished name' (by simpa using heq)
  · rintro ⟨job', hjob', ⟨stage, going⟩, name', called', heq⟩
    have hname : name = name' := unfinished_injective (by simpa using heq)
    have hsame : job = job' := List.inj_on_of_nodup_map h.distinct hjob hjob'
      (sits.called.trans (hname ▸ called'.symm))
    rw [← hsame, hok] at going
    exact absurd going (by simp)

/-- Deliveries side by side, however their turns are ordered and whichever operations fail: at every
moment, and also if there is a crash, the files are as they were; what has been delivered is whole
and its unfinished copy gone; and at the place of each other file there is what was there before. A
turn alters nothing but the two names of its own file, and the archive counts the files, the bytes
and the failures. -/
theorem delivered_side_by_side (unbegun : s₀.Unbegun dir dest)
    (reached : Relation.ReflTransGen (Step dir dest) s₀ s) :
    ((s.jobs.map fun job => (job.path, job.file))
        = s₀.jobs.map fun job => (job.path, job.file)) ∧
      (∀ job ∈ s.jobs, ∃ name bytes, job.path.fileName? = some name ∧
        s₀.world.disk.fileAt? (dir ++ [name]) = some bytes ∧ ∀ d, s.Torn dest d →
          s₀.world.disk.Unaltered d (dir ++ [name]) ∧
          (job.turn = .ended (.ok ()) → d.fileAt? (dest ++ [name]) = some bytes ∧
            d.node? (dest ++ [unfinished name]) = none) ∧
          (job.turn ≠ .ended (.ok ()) → s₀.world.disk.Unaltered d (dest ++ [name]))) ∧
      (∀ before job stage after, s.jobs = before ++ job :: after → job.turn = .next stage →
        ∃ name, job.path.fileName? = some name ∧ Disk.Alters
          (fun loc => loc = dest ++ [unfinished name] ∨ loc = dest ++ [name])
          s.world.disk (s.go before job stage after).world.disk) ∧
      Counted s₀ s := by
  have h := unbegun.going.reached reached
  refine ⟨files_of_reached reached, fun job hjob => ?_,
    fun before job stage after among going => ?_, h.counted⟩
  · obtain ⟨name, sits⟩ := h.sits job hjob
    refine ⟨name, _, sits.called, Disk.fileAt?_of_node sits.node, fun d torn => ?_⟩
    obtain ⟨hsource, hfinal, hpartial⟩ := h.torn torn hjob sits
    refine ⟨sits.source.trans hsource, fun hok => ⟨?_, ?_⟩, fun hwait => ?_⟩
    · have hcopied := sits.copied
      rw [hok] at hcopied
      exact hfinal.fileAt?.trans hcopied
    · exact (hpartial hok).node.trans (sits.cleared hok)
    · exact (sits.waits hwait).trans hfinal
  · obtain ⟨name, sits⟩ := h.sits job (by simp [among])
    have proceeds := sits.proceeds h.sound h.leads going
    exact ⟨name, sits.called, proceeds.alters.mono fun _ => Or.imp_right And.left⟩

end Going

/-! ### Two deliveries by turns -/

def turnAt (s : Batch) (i : Nat) : Batch :=
  match s.jobs.drop i with
  | [] => s
  | job :: after =>
    match job.turn with
    | .next stage => s.go (s.jobs.take i) job stage after
    | .ended _ => s

theorem reached_turnAt {dir dest : Location} (s : Batch) (i : Nat) :
    Relation.ReflTransGen (Step dir dest) s (s.turnAt i) := by
  rw [turnAt]
  split
  · exact .refl
  · next job after hdrop =>
    split
    · next stage going =>
      refine .single (.turn s _ job stage after ?_ going)
      rw [← hdrop, List.take_append_drop]
    · exact .refl

theorem reached_turns {dir dest : Location} (s : Batch) (order : List Nat) :
    Relation.ReflTransGen (Step dir dest) s (order.foldl turnAt s) := by
  induction order generalizing s with
  | nil => exact .refl
  | cons i order ih => exact (reached_turnAt s i).trans (ih (s.turnAt i))

def twoFiles : Disk :=
  let first := ((Disk.fresh ['w']).putNewFile ([['w']] ++ ["e.1".toList])).1.setContent 0 [97]
  let second := (first.putNewFile ([['w']] ++ ["e.2".toList])).1.setContent 1 [98, 99]
  second.put ([] ++ [['a']]) .dir

theorem twoFiles_sound : twoFiles.Sound := by
  have start : Plain ['w'] := ⟨by decide, by decide, by decide, by decide⟩
  have first : Plain "e.1".toList := ⟨by decide, by decide, by decide, by decide⟩
  have second : Plain "e.2".toList := ⟨by decide, by decide, by decide, by decide⟩
  have beside : Plain ['a'] := ⟨by decide, by decide, by decide, by decide⟩
  have one : ((Disk.fresh ['w']).putNewFile ([['w']] ++ ["e.1".toList])).1.Sound :=
    (Disk.fresh_sound start (by decide)).putNewFile (by decide) first (by decide)
  have two := (one.setContent 0 [97]).putNewFile (show _ = some Node.dir by decide) second
    (show Disk.node? _ ([['w']] ++ _) = none by decide)
  exact (two.setContent 1 [98, 99]).putDir (by decide) beside (by decide)

def twoJobs : Batch where
  archive := { unset with directory := ⟨"/a".toList⟩ }
  world := { disk := twoFiles, wall := { seconds := 0, nanos := 0 }, now := 0, log := [] }
  jobs := [⟨⟨"e.1".toList⟩, 0, .next .begun⟩, ⟨⟨"e.2".toList⟩, 1, .next .begun⟩]

theorem twoJobs_unbegun : twoJobs.Unbegun [['w']] [['a']] := by
  have follows : ∀ c : Char, c.isDigit → c ≠ '/' → Follows ['e'] ['e', '.', c] :=
    fun c digit slash => ⟨[c], rfl, by simpa using slash.symm, c, rfl, digit⟩
  have links : twoFiles.hasLink = false := by decide
  refine ⟨twoFiles_sound, leads_of_dirOf? (by decide +kernel), by decide, by decide +kernel, ?_⟩
  intro job hjob
  rcases List.mem_pair.mp hjob with rfl | rfl
  · exact ⟨rfl, ['e'], ['e', '.', '1'], follows '1' (by decide) (by decide), by decide +kernel,
      by decide +kernel, Disk.not_link links _⟩
  · exact ⟨rfl, ['e'], ['e', '.', '2'], follows '2' (by decide) (by decide), by decide +kernel,
      by decide +kernel, Disk.not_link links _⟩

def byTurns : Batch :=
  [0, 1, 0, 1, 0, 1, 0, 1].foldl turnAt twoJobs

/-- Two files of three bytes together are delivered by turns. -/
theorem delivered_by_turns :
    byTurns.archive.tally.files = 2 ∧ byTurns.archive.tally.bytes = 3 ∧
      byTurns.archive.tally.failures = 0 ∧
      ∀ job ∈ byTurns.jobs, ∃ name bytes, job.path.fileName? = some name ∧
        twoFiles.fileAt? [['w'], name] = some bytes ∧
        byTurns.world.disk.fileAt? [['a'], name] = some bytes ∧
        byTurns.world.disk.node? [['a'], unfinished name] = none := by
  have reached : Relation.ReflTransGen (Step [['w']] [['a']]) twoJobs byTurns :=
    reached_turns twoJobs _
  obtain ⟨-, jobs, -, counted⟩ := delivered_side_by_side twoJobs_unbegun reached
  have sound := (twoJobs_unbegun.going.reached reached).sound
  have hended : byTurns.jobs.all Job.succeeded = true := by decide +kernel
  refine ⟨counted.files.trans ?_, counted.bytes.trans ?_, counted.failures.trans ?_,
    fun job hjob => ?_⟩
  · decide +kernel
  · decide +kernel
  · decide +kernel
  · obtain ⟨name, bytes, called, file, ended⟩ := jobs job hjob
    obtain ⟨-, whole, -⟩ := ended byTurns.world.disk (Disk.alters_faults sound _ _)
    obtain ⟨hwhole, hgone⟩ := whole (Job.turn_of_succeeded (List.all_eq_true.mp hended job hjob))
    exact ⟨name, bytes, called, file, hwhole, hgone⟩

end Batch

end Archive

end Outbox
