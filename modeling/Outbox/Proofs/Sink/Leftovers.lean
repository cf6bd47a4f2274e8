import Outbox.Proofs.Sink.Recovery

/-!
# Files of an earlier run

A sink makes its buffer directory, opens the live file in it and lists it, three times by the same
path. The three agree about where that is for every path but the empty one: to make that and to join
a name to it goes well and means the start directory, and to list it fails. The sink starts all the
same, without the rolled files that are there (`leftovers_queued_iff`).
-/

set_option autoImplicit false

namespace Outbox

/-! ### Disks without faults -/

namespace Disk

variable {α : Type} {d : Disk} {p : Path} {order : ListingOrder}

/-- A disk on which nothing fails, and that lists in a given order. -/
structure Calm (order : ListingOrder) (d : Disk) : Prop where
  faults : d.faults = []
  listing : d.listing = order

/-- An operation that leaves the faults of the disk to later ones, and does not change how the disk
lists. -/
def Steady (operation : Disk → Except IoError (α × Disk)) : Prop :=
  ∀ d d' a, operation d = .ok (a, d') → d'.faults = d.faults ∧ d'.listing = d.listing

theorem Steady.calm {operation : Disk → Except IoError (α × Disk)} (steady : Steady operation)
    (calm : d.Calm order) : (d.attempt operation).2.Calm order := by
  rw [attempt, calm.faults]
  dsimp only
  split
  · next a d' hop =>
    obtain ⟨hfaults, hlisting⟩ := steady d d' a hop
    exact ⟨hfaults.trans calm.faults, hlisting.trans calm.listing⟩
  · exact calm

theorem steady_mkdir (p : Path) : Steady (mkdir p) := by
  intro d d' a h
  rw [mkdir] at h
  split at h
  · exact absurd h (by simp)
  · simp only [Except.ok.injEq, Prod.mk.injEq] at h
    exact h.2 ▸ ⟨rfl, rfl⟩

theorem steady_openForWriting (p : Path) : Steady (openForWriting p) := by
  intro d d' handle h
  rw [openForWriting] at h
  split at h
  · exact absurd h (by simp)
  · exact absurd h (by simp)
  · next loc node _ =>
    cases hwritable : writable node with
    | error e => simp [hwritable, Except.map] at h
    | ok handle' =>
      simp only [hwritable, Except.map, Except.ok.injEq, Prod.mk.injEq] at h
      exact h.2 ▸ ⟨rfl, rfl⟩
  · simp only [Except.ok.injEq, Prod.mk.injEq] at h
    exact h.2 ▸ ⟨rfl, rfl⟩

theorem steady_write (handle : Handle) (bytes : Bytes) : Steady (write handle bytes) := by
  intro d d' a h
  cases handle with
  | file id =>
    simp only [write, Except.ok.injEq, Prod.mk.injEq, true_and] at h
    exact h ▸ ⟨rfl, rfl⟩
  | full =>
    simp only [write] at h
    split at h
    · simp only [Except.ok.injEq, Prod.mk.injEq, true_and] at h
      exact h ▸ ⟨rfl, rfl⟩
    · exact absurd h (by simp)
  | dir => exact absurd h (by simp [write])

theorem steady_create (p : Path) : Steady (create p) := by
  intro d d' handle h
  rw [create] at h
  split at h
  · exact absurd h (by simp)
  · next id d₁ hopen =>
    simp only [Except.ok.injEq, Prod.mk.injEq] at h
    exact h.2 ▸ steady_openForWriting p d d₁ _ hopen
  · next hopen =>
    simp only [Except.ok.injEq, Prod.mk.injEq] at h
    exact h.2 ▸ steady_openForWriting p d _ _ hopen

theorem steady_writeFile (p : Path) (bytes : Bytes) : Steady (writeFile p bytes) := by
  intro d d' a h
  rw [writeFile] at h
  split at h
  · exact absurd h (by simp)
  · next handle d₁ hcreate =>
    obtain ⟨hfaults, hlisting⟩ := steady_create p d d₁ handle hcreate
    obtain ⟨hfaults', hlisting'⟩ := steady_write handle bytes d₁ d' a h
    exact ⟨hfaults'.trans hfaults, hlisting'.trans hlisting⟩

theorem steady_remove (p : Path) : Steady (remove p) := by
  intro d d' a h
  rw [remove] at h
  split at h
  · exact absurd h (by simp)
  · exact absurd h (by simp)
  · split at h
    · exact absurd h (by simp)
    · exact absurd h (by simp)
    · exact absurd h (by simp)
    · split at h
      · exact absurd h (by simp)
      · simp only [Except.ok.injEq, Prod.mk.injEq, true_and] at h
        exact h ▸ ⟨rfl, rfl⟩

theorem steady_length (handle : Handle) : Steady (length handle) := by
  intro d d' size h
  cases handle <;> simp only [length, Except.ok.injEq, Prod.mk.injEq] at h <;>
    exact h.2 ▸ ⟨rfl, rfl⟩

theorem missing_calm (ps : List Path) (calm : d.Calm order) : (d.missing ps).2.Calm order := by
  induction ps generalizing d with
  | nil => exact calm
  | cons p outer ih =>
    have hmkdir := (steady_mkdir p).calm calm
    rw [missing]
    split
    · exact calm
    · split
      · next h => rwa [h] at hmkdir
      · next d₁ h =>
        rw [h] at hmkdir
        have hrest := ih hmkdir
        split
        · next h' => rwa [h'] at hrest
        · next h' => rwa [h'] at hrest
      · next h =>
        rw [h] at hmkdir
        split <;> exact hmkdir
      · next h => rwa [h] at hmkdir

theorem mkdirEach_calm (ps : List Path) (calm : d.Calm order) :
    (d.mkdirEach ps).2.Calm order := by
  induction ps generalizing d with
  | nil => exact calm
  | cons p rest ih =>
    have hmkdir := (steady_mkdir p).calm calm
    rw [mkdirEach]
    split
    · next h => exact ih (by rwa [h] at hmkdir)
    · next h =>
      rw [h] at hmkdir
      split
      · exact ih hmkdir
      · exact hmkdir
    · next h => rwa [h] at hmkdir

theorem mkdirs_calm (p : Path) (calm : d.Calm order) : (d.mkdirs p).2.Calm order := by
  have hmissing := missing_calm p.ancestors calm
  rw [mkdirs]
  split
  · next h => exact mkdirEach_calm _ (by rwa [h] at hmissing)
  · next h => rwa [h] at hmissing

end Disk

section Calm

variable {b b' : Destination} {connection : Connection} {path : Path} {w w' : World}
  {order : ListingOrder}

theorem World.calm_of_attempt {α : Type} {operation : Disk → Except IoError (α × Disk)}
    {result : Except IoError α} (steady : Disk.Steady operation)
    (h : w.attempt operation = (result, w')) (calm : w.disk.Calm order) :
    w'.disk.Calm order := by
  have hcalm := Disk.Steady.calm steady calm
  rw [World.attempt] at h
  obtain ⟨-, rfl⟩ := Prod.mk.inj h
  exact hcalm

theorem Destination.calm_of_configure (h : b.configure connection w = (.ok (), b', w'))
    (calm : w.disk.Calm order) : w'.disk.Calm order := by
  cases b with
  | archive a =>
    simp only [configure, Archive.configure, Prod.mk.injEq] at h
    obtain ⟨-, -, rfl⟩ := h
    have hmkdirs := Disk.mkdirs_calm (⟨Text.strip connection.rest⟩ : Path) calm
    split
    · exact calm
    · split
      · next h => rwa [h] at hmkdirs
      · next h => rwa [h] at hmkdirs
  | store s =>
    simp only [configure, Prod.mk.injEq] at h
    exact h.2.2 ▸ calm
  | scripted s =>
    simp only [configure, Prod.mk.injEq] at h
    exact h.2.2 ▸ calm

theorem Sink.calm_of_prepareBuffer (h : Sink.prepareBuffer path w = (.ok (), w'))
    (calm : w.disk.Calm order) : w'.disk.Calm order := by
  have hmkdirs := Disk.mkdirs_calm path calm
  rw [prepareBuffer] at h
  split at h
  · exact absurd h (by simp)
  next d₁ hmade =>
  rw [hmade] at hmkdirs
  dsimp only at h
  split at h
  · exact absurd h (by simp)
  next w₂ hwrite =>
  have calm₂ := World.calm_of_attempt (Disk.steady_writeFile _ _) hwrite hmkdirs
  split at h
  · next e w₃ hremove =>
    have calm₃ := World.calm_of_attempt (Disk.steady_remove _) hremove calm₂
    exact (Prod.mk.inj h).2 ▸ calm₃
  · next w₃ hremove =>
    have calm₃ := World.calm_of_attempt (Disk.steady_remove _) hremove calm₂
    exact (Prod.mk.inj h).2 ▸ calm₃

theorem LiveFile.calm_of_openAt {file : LiveFile} (h : LiveFile.openAt path w = (.ok file, w'))
    (calm : w.disk.Calm order) : w'.disk.Calm order := by
  rw [openAt] at h
  split at h
  · exact absurd h (by simp)
  split at h
  · exact absurd h (by simp)
  next handle w₁ hopen =>
  have calm₁ := World.calm_of_attempt (Disk.steady_openForWriting path) hopen calm
  split at h
  · exact absurd h (by simp)
  next size w₂ hlength =>
  have calm₂ := World.calm_of_attempt (Disk.steady_length handle) hlength calm₁
  simp only [Prod.mk.injEq] at h
  rw [← h.2]
  split <;> exact calm₂

end Calm

/-! ### The queue of a sink that has started -/

namespace Sink

theorem queueLeftovers_nowhere {s : Sink} (nowhere : s.bufferDir.chars = []) (w : World) :
    (s.queueLeftovers w).1 = s := by
  rw [queueLeftovers]
  split
  · rfl
  · next found w₁ hscan =>
    obtain ⟨faults, d, hop, -⟩ := World.attempt_ok hscan
    obtain ⟨-, loc, entries, hfind, -⟩ := Leftovers.scan_ok hop
    rw [Disk.find, Disk.pursue, Disk.route, nowhere] at hfind
    exact absurd hfind (by simp)

end Sink

section Started

variable {settings : Settings} {destination : Option Destination} {s : Sink} {w₀ w : World}
  {dir : Location} {order : ListingOrder}

/-- Each rolled file is named once, and is a regular file of the directory whose name goes on after
that of the live file. -/
structure Settings.Lists (settings : Settings) (dir : Location) (d : Disk) : Prop where
  once : (settings.rolledFiles dir d).Nodup
  mem_iff : ∀ q, q ∈ settings.rolledFiles dir d ↔ ∃ name id, q = settings.bufferDir.join name ∧
    d.node? (dir ++ [name]) = some (.file id) ∧ settings.baseName <+: name ∧
    settings.baseName.length < name.length

theorem length_lt_of_front {base name : Name} (front : base <+: name) :
    base ≠ name ↔ base.length < name.length := by
  constructor
  · intro ne
    exact Nat.lt_of_le_of_ne front.length_le fun heq => ne (front.eq_of_length heq)
  · rintro hlength rfl
    exact Nat.lt_irrefl _ hlength

theorem Settings.lists {d : Disk} (sound : d.Sound) : settings.Lists dir d where
  once := by
    have hperm := (d.inListingOrder_perm (d.children dir)).filter
      (Leftovers.isRolled settings.baseName)
    rw [rolledFiles, (hperm.map fun entry => settings.bufferDir.join entry.1).nodup_iff]
    have hplain : ∀ entry ∈ (d.children dir).filter (Leftovers.isRolled settings.baseName),
        '/' ∉ entry.1 := by
      intro entry hmem
      obtain ⟨hmem, hrolled⟩ := List.mem_filter.mp hmem
      obtain ⟨id, -, plain, -⟩ := Leftovers.node_of_isRolled sound hmem hrolled
      exact plain.no_slash
    have hnames : (((d.children dir).filter (Leftovers.isRolled settings.baseName)).map
        Prod.fst).Nodup :=
      (Disk.nodup_children sound).sublist (List.filter_sublist.map Prod.fst)
    refine List.Nodup.map_on (fun entry hentry other hother heq => ?_) (.of_map _ hnames)
    have hends := Path.endsIn_join settings.bufferDir (hplain other hother)
    rw [← heq] at hends
    have hname := (Path.endsIn_join settings.bufferDir (hplain entry hentry)).unique hends
    exact List.inj_on_of_nodup_map hnames hentry hother hname
  mem_iff := by
    intro q
    rw [rolledFiles, List.mem_map]
    constructor
    · rintro ⟨entry, hmem, rfl⟩
      obtain ⟨hmem, hrolled⟩ := List.mem_filter.mp hmem
      have hmem := (d.inListingOrder_perm _).mem_iff.mp hmem
      obtain ⟨id, hnode, -, hfront, hne⟩ := Leftovers.node_of_isRolled sound hmem hrolled
      exact ⟨entry.1, id, rfl, hnode, hfront, (length_lt_of_front hfront).mp hne⟩
    · rintro ⟨name, id, rfl, hnode, hfront, hlength⟩
      have hmem := Disk.mem_children_of_mem (Disk.mem_of_node? hnode (by simp))
      refine ⟨(name, .file id), List.mem_filter.mpr ⟨?_, ?_⟩, rfl⟩
      · exact (d.inListingOrder_perm _).mem_iff.mpr hmem
      · exact Leftovers.isRolled_iff.mpr
          ⟨⟨id, rfl⟩, hfront, (length_lt_of_front hfront).mpr hlength⟩

/-- Without faults, what a sink queues when its live file is open is what its buffer directory
lists, unless that directory has no path. -/
theorem pending_of_openLive {b : Destination}
    (h : Sink.openLive settings settings.bufferDir b w₀ = (.ok s, w)) (calm : w₀.disk.Calm order)
    (leads : w.disk.dirOf? settings.bufferDir = some dir) :
    s.counters.pending = s.pending.length ∧
      s.pending = if settings.bufferDir.chars = [] then [] else settings.rolledFiles dir w.disk := by
  obtain ⟨live, w₁, hopen, rfl, hdisk⟩ := Sink.openLive_ok h
  have calm₁ := LiveFile.calm_of_openAt hopen calm
  constructor
  · rw [Sink.queueLeftovers]
    split <;> rfl
  split
  · next nowhere => rw [Sink.queueLeftovers_nowhere nowhere]; rfl
  · next entry =>
    obtain ⟨faults, hfaults⟩ :=
      (Sink.queued_leftovers (.ofParts settings settings.bufferDir b live) w₁).disk
    rw [hdisk, hfaults, Disk.dirOf?_faults] at leads
    obtain ⟨hpending, -, hsame⟩ := Sink.queueLeftovers_calm
      (s := .ofParts settings settings.bufferDir b live) calm₁.faults entry leads
    rw [hpending, hdisk, hsame]
    rfl

theorem Sink.listing_of_openLive {b : Destination}
    (h : Sink.openLive settings settings.bufferDir b w₀ = (.ok s, w))
    (calm : w₀.disk.Calm order) : w.disk.listing = order := by
  obtain ⟨live, w₁, hopen, -, hdisk⟩ := Sink.openLive_ok h
  obtain ⟨faults, hfaults⟩ :=
    (Sink.queued_leftovers (.ofParts settings settings.bufferDir b live) w₁).disk
  rw [hdisk, hfaults]
  exact (LiveFile.calm_of_openAt hopen calm).listing

/-- A sink that has started without faults has its live file in its buffer directory and counts what
it has queued. That is what is listed there unless the directory has no path: then it is nothing. -/
theorem leftovers_queued_iff (start : Sink.start settings destination w₀ = (.ok s, w))
    (sound : w₀.disk.Sound) (calm : w₀.disk.faults = [])
    (plain : Config.isPlainName settings.baseName = true) :
    ∃ dir, s.live.path = settings.bufferDir.join settings.baseName ∧
      w.disk.goal s.live.path = .ok (.entry dir settings.baseName, false) ∧
      settings.Lists dir w.disk ∧ s.counters.pending = s.pending.length ∧
      (s.pending = settings.rolledFiles dir w.disk ↔
        settings.bufferDir.chars ≠ [] ∨ settings.rolledFiles dir w.disk = []) ∧
      (settings.bufferDir.chars = [] → s.pending = []) := by
  have plain := Config.plain_of_isPlainName plain
  obtain ⟨b, b', w₁, w₂, -, hconfigure, hprepare, -, hopen⟩ := Sink.start_ok start
  have calm₂ := Sink.calm_of_prepareBuffer hprepare
    (Destination.calm_of_configure hconfigure ⟨calm, rfl⟩)
  obtain ⟨-, hsound, dir, hdir⟩ := Sink.prepareBuffer_ok hprepare
  have opened := Sink.opened_of_openLive hopen
  have sound' := opened.sound (hsound ((Destination.grows_of_configure hconfigure).sound sound))
  have leads := opened.carries.dirOf? hdir
  obtain ⟨hcounted, hpending⟩ := pending_of_openLive hopen calm₂ leads
  refine ⟨dir, opened.path, ?_, Settings.lists sound', hcounted, ?_, fun nowhere => ?_⟩
  · rw [opened.path]
    exact Disk.goal_of_dirOf? leads plain (opened.path ▸ opened.valid)
  · rw [hpending]
    by_cases nowhere : settings.bufferDir.chars = []
    · simp only [nowhere, ne_eq, not_true_eq_false, false_or]
      exact eq_comm
    · simp [nowhere]
  · rw [hpending, if_pos nowhere]

end Started

/-- A start directory with a file that an earlier run has rolled. -/
def World.visited : World :=
  { World.listingNewest with
    disk := (World.listingNewest.disk.putNewFile
      ([['w']] ++ ["event-bundle.2026-10-17T09:00:00".toList])).1 }

theorem sound_visited : World.visited.disk.Sound := by
  have start : Plain ['w'] := ⟨by decide, by decide, by decide, by decide⟩
  have left : Plain "event-bundle.2026-10-17T09:00:00".toList :=
    ⟨by decide, by decide, by decide, by decide⟩
  have fresh := (Disk.fresh_sound start (by decide)).withListing .newestFirst
  exact fresh.putNewFile (by decide) left (by decide)

/-- The start directory by its short name is listed. -/
theorem leftovers_queued_here :
    ∃ s w, Sink.start { Settings.default with connection := ".:remote".toList }
        (some (.scripted (.ofScript [] none))) .visited = (.ok s, w) ∧
      s.pending = [⟨"./event-bundle.2026-10-17T09:00:00".toList⟩] ∧ s.counters.pending = 1 := by
  let settings : Settings := { Settings.default with connection := ".:remote".toList }
  have hcheck : Sink.passes (Sink.start settings (some (.scripted (.ofScript [] none))) .visited)
      (fun s w => decide (w.disk.goal s.live.path = .ok (.entry [['w']] settings.baseName, false)) &&
        decide (settings.rolledFiles [['w']] w.disk
          = [⟨"./event-bundle.2026-10-17T09:00:00".toList⟩])) = true := by
    decide +kernel
  obtain ⟨s, w, hstart, hcheck⟩ := Sink.exists_of_passes hcheck
  simp only [Bool.and_eq_true, decide_eq_true_eq] at hcheck
  obtain ⟨hgoal, hlisted⟩ := hcheck
  obtain ⟨dir, -, hgoal', -, hcounted, hiff, -⟩ :=
    leftovers_queued_iff hstart sound_visited rfl (by decide)
  obtain rfl : [['w']] = dir := by
    rw [hgoal] at hgoal'
    simpa using hgoal'
  have hpending := (hiff.mpr (.inl (by decide))).trans hlisted
  refine ⟨s, w, hstart, hpending, ?_⟩
  rw [hcounted, hpending]
  rfl

/-- Nothing in front of the colon: the live file is opened beside the rolled one, and that is not
queued. -/
theorem leftover_passed_over :
    ∃ s w, Sink.start { Settings.default with connection := ":remote".toList }
        (some (.scripted (.ofScript [] none))) .visited = (.ok s, w) ∧
      w.disk.goal s.live.path = .ok (.entry [['w']] "event-bundle".toList, false) ∧
      w.disk.fileAt? [['w'], "event-bundle.2026-10-17T09:00:00".toList] = some [] ∧
      s.pending = [] ∧ s.counters.pending = 0 := by
  have hcheck : Sink.passes (Sink.start { Settings.default with connection := ":remote".toList }
      (some (.scripted (.ofScript [] none))) .visited) (fun s w =>
        decide (w.disk.goal s.live.path
          = .ok (.entry [['w']] "event-bundle".toList, false)) &&
        decide (w.disk.fileAt? [['w'], "event-bundle.2026-10-17T09:00:00".toList] = some []) &&
        decide (s.pending = []) && decide (s.counters.pending = 0)) = true := by
    decide +kernel
  obtain ⟨s, w, hstart, hcheck⟩ := Sink.exists_of_passes hcheck
  simp only [Bool.and_eq_true, decide_eq_true_eq] at hcheck
  obtain ⟨⟨⟨hgoal, hfile⟩, hpending⟩, hcounted⟩ := hcheck
  exact ⟨s, w, hstart, hgoal, hfile, hpending, hcounted⟩

end Outbox
