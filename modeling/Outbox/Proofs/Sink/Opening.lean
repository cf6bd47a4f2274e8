import Outbox.Proofs.Disk.Existing
import Outbox.Proofs.Sink.BufferSteps
import Outbox.Proofs.Sink.Start

/-!
# Opening the live file

A sink whose live file has been opened as a regular file, in whatever directory, begins with what it
relies on in that directory. The files that it finds there from an earlier run have names of their
own, which go on after that of the live file.
-/

set_option autoImplicit false

namespace Outbox

namespace Leftovers

theorem scan_ok {path : Path} {base : Name} {d d' : Disk} {found : List Path}
    (h : scan path base d = .ok (found, d')) :
    d' = d ∧ ∃ (loc : Location) (entries : List (Name × Node)),
      d.find path = .ok (loc, .dir) ∧ entries.Perm (d.children loc) ∧
      found = (entries.filter (isRolled base)).map fun entry => path.join entry.1 := by
  rw [scan] at h
  cases hlist : Disk.list path d with
  | error e => rw [hlist] at h; exact absurd h (by simp)
  | ok result =>
    obtain ⟨entries, after⟩ := result
    rw [hlist] at h
    simp only [Except.ok.injEq, Prod.mk.injEq] at h
    obtain ⟨rfl, rfl⟩ := h
    rw [Disk.list] at hlist
    split at hlist
    · exact absurd hlist (by simp)
    · next loc hfind =>
      simp only [Except.ok.injEq, Prod.mk.injEq] at hlist
      obtain ⟨rfl, rfl⟩ := hlist
      exact ⟨rfl, loc, _, hfind, Disk.inListingOrder_perm _ _, rfl⟩
    · exact absurd hlist (by simp)

theorem isRolled_iff {base : Name} {entry : Name × Node} :
    isRolled base entry = true ↔
      (∃ id, entry.2 = .file id) ∧ base <+: entry.1 ∧ base ≠ entry.1 := by
  obtain ⟨name, node⟩ := entry
  cases node <;> simp [isRolled]

theorem node_of_isRolled {d : Disk} {loc : Location} {base : Name} {entry : Name × Node}
    (sound : d.Sound) (hmem : entry ∈ d.children loc) (hrolled : isRolled base entry = true) :
    ∃ id, d.node? (loc ++ [entry.1]) = some (.file id) ∧ Plain entry.1 ∧ base <+: entry.1 ∧
      base ≠ entry.1 := by
  obtain ⟨⟨id, hid⟩, hfront, hne⟩ := isRolled_iff.mp hrolled
  have hnode := Disk.node?_of_mem sound (Disk.mem_children hmem) (by simp)
  rw [hid] at hnode
  exact ⟨id, hnode, sound.plain hnode, hfront, hne⟩

end Leftovers

/-- What queueing the files that a scan has found leaves as it was. -/
structure Sink.Queued (s : Sink) (w : World) (s' : Sink) (w' : World) : Prop where
  disk : ∃ faults, w'.disk = { w.disk with faults }
  live : s'.live = s.live
  fileSize : s'.fileSize = s.fileSize
  uploads : s'.uploads = s.uploads
  outcomes : s'.outcomes = s.outcomes
  destination : s'.destination = s.destination
  bufferDir : s'.bufferDir = s.bufferDir
  pending : s'.pending = s.pending ∨ ∃ found, s'.pending = s.pending ++ found ∧
    Leftovers.scan s.bufferDir s.settings.baseName w'.disk = .ok (found, w'.disk)

theorem Sink.queued_leftovers (s : Sink) (w : World) :
    Queued s w (s.queueLeftovers w).1 (s.queueLeftovers w).2 := by
  rw [Sink.queueLeftovers]
  split
  · next e w₂ hattempt =>
    obtain ⟨faults, rfl⟩ := World.attempt_error hattempt
    exact ⟨⟨faults, rfl⟩, rfl, rfl, rfl, rfl, rfl, rfl, .inl rfl⟩
  · next found w₂ hattempt =>
    obtain ⟨faults, d', hop, rfl⟩ := World.attempt_ok hattempt
    obtain ⟨rfl, -⟩ := Leftovers.scan_ok hop
    refine ⟨⟨faults, ?_⟩, rfl, rfl, rfl, rfl, rfl, rfl, .inr ⟨found, rfl, ?_⟩⟩
    · dsimp only
      split <;> rfl
    · dsimp only
      split <;> exact hop

theorem LiveFile.openAt_ok {path : Path} {live : LiveFile} {w w' : World}
    (h : LiveFile.openAt path w = (.ok live, w')) :
    ∃ name handle faults faults' d, path.fileName? = some name ∧
      Disk.openAppend path { w.disk with faults } = .ok (handle, d) ∧
      w'.disk = { d with faults := faults' } ∧
      live.path = path ∧ live.handle = some handle ∧ live.counters.name = name ∧
      live.size = (handle.bytes w'.disk).length := by
  rw [LiveFile.openAt] at h
  split at h
  · exact absurd h (by simp)
  next name hname =>
  split at h
  · exact absurd h (by simp)
  next handle w₁ hopen =>
  split at h
  · exact absurd h (by simp)
  next size w₂ hlength =>
  obtain ⟨faults, d, hop, rfl⟩ := World.attempt_ok hopen
  obtain ⟨faults', d', hop', rfl⟩ := World.attempt_ok hlength
  obtain ⟨hsize, hd'⟩ : size = (handle.bytes d').length ∧ d' = { d with faults := faults' } := by
    cases handle <;> simp only [Disk.length, Except.ok.injEq, Prod.mk.injEq] at hop' <;>
      obtain ⟨rfl, rfl⟩ := hop' <;> exact ⟨rfl, rfl⟩
  simp only [Prod.mk.injEq] at h
  obtain ⟨hlive, hw⟩ := h
  have hdisk : w'.disk = d' := by
    rw [← hw]
    split <;> rfl
  rw [hw] at hlive
  split at hlive
  · rw [Except.ok.injEq] at hlive
    subst hlive
    exact ⟨name, handle, faults, faults', d, hname, hop, hdisk.trans hd', rfl, rfl, rfl,
      hdisk ▸ hsize⟩
  · exact absurd hlive (by simp)

namespace Sink

/-- What it means that a live file has been opened, whatever it is. -/
structure Opened (settings : Settings) (bufferDir : Path) (destination : Destination) (w : World)
    (s : Sink) (w' : World) : Prop where
  grows : w.disk.Grows w'.disk
  goesTo : s.destination = destination
  holds : s.bufferDir = bufferDir
  path : s.live.path = bufferDir.join settings.baseName
  valid : s.live.path.Valid
  name : s.live.path.fileName? = some s.live.counters.name
  pending : s.pending = [] ∨
    Leftovers.scan bufferDir settings.baseName w'.disk = .ok (s.pending, w'.disk)

section Opened

variable {settings : Settings} {bufferDir : Path} {destination : Destination} {s : Sink}
  {w w' : World}

theorem Opened.carries (h : Opened settings bufferDir destination w s w') :
    w.disk.Carries w'.disk :=
  h.grows.keeps.carries

theorem Opened.sound (h : Opened settings bufferDir destination w s w') (sound : w.disk.Sound) :
    w'.disk.Sound :=
  h.grows.sound sound

end Opened

theorem opened_of_openLive {settings : Settings} {bufferDir : Path} {destination : Destination}
    {s : Sink} {w w' : World} (h : openLive settings bufferDir destination w = (.ok s, w')) :
    Opened settings bufferDir destination w s w' := by
  obtain ⟨live, w₁, hopen, rfl, hdisk⟩ := openLive_ok h
  obtain ⟨name, handle, faults, faults', d, hname, hop, hdisk₁, hpath, -, hcounters, -⟩ :=
    LiveFile.openAt_ok hopen
  have queued := queued_leftovers (ofParts settings bufferDir destination live) w₁
  obtain ⟨faults'', hdisk₂⟩ := queued.disk
  obtain ⟨hgrows, -, -⟩ := Disk.openForWriting_ok hop
  obtain ⟨goal, slash, hgoal⟩ := Disk.goal_of_openForWriting hop
  have hlive : ((ofParts settings bufferDir destination live).queueLeftovers w₁).1.live.path
      = bufferDir.join settings.baseName := by
    rw [queued.live]
    exact hpath
  have hd : w'.disk = { d with faults := faults'' } := by rw [hdisk, hdisk₂, hdisk₁]
  refine ⟨?_, queued.destination, queued.bufferDir, hlive, ?_, ?_, ?_⟩
  · rw [hd]
    exact ((Disk.grows_faults w.disk faults).trans hgrows).trans (Disk.grows_faults d faults'')
  · rw [hlive]
    exact (Disk.goal_ok hgoal).1
  · rw [hlive, queued.live]
    exact hcounters ▸ hname
  · rcases queued.pending with hpending | ⟨found, hpending, hscan⟩
    · exact .inl hpending
    · rw [hpending, hdisk]
      exact .inr hscan

end Sink

namespace Course

theorem seated_of_openLive {settings : Settings} {bufferDir : Path} {destination : Destination}
    {s : Sink} {w₀ w : World}
    (h : Sink.openLive settings bufferDir destination w₀ = (.ok s, w)) (sound : w₀.disk.Sound) :
    ∃ handle, s.live.Seated w.disk handle ∧ s.fileSize = (handle.bytes w.disk).length := by
  obtain ⟨live, w₁, hopen, rfl, hdisk⟩ := Sink.openLive_ok h
  obtain ⟨name, handle, faults, faults', d, hname, hop, hdisk₁, hpath, hhandle, hcounters, hsize⟩ :=
    LiveFile.openAt_ok hopen
  have queued := Sink.queued_leftovers (Sink.ofParts settings bufferDir destination live) w₁
  obtain ⟨faults'', hdisk₂⟩ := queued.disk
  obtain ⟨grows, -⟩ := Disk.openForWriting_ok hop
  obtain ⟨dir, name', seats⟩ := Disk.seats_of_openForWriting (sound.withFaults faults) hop
  have hname : name' = name := by
    rw [seats.only.endsIn.fileName? seats.only.plain] at hname
    exact Option.some.inj hname
  have hd : w.disk = { w₁.disk with faults := faults'' } := hdisk.trans hdisk₂
  have hfile :
      ((Sink.ofParts settings bufferDir destination live).queueLeftovers w₁).1.live = live :=
    queued.live
  refine ⟨handle, ⟨?_, ?_, dir, ?_⟩, ?_⟩
  · rw [hd, hdisk₁]
    exact ((grows.sound (sound.withFaults faults)).withFaults faults').withFaults faults''
  · rw [hfile, hhandle]
  · rw [hfile, hpath, hcounters, ← hname, hd, hdisk₁]
    exact (seats.withFaults faults').withFaults faults''
  · rw [queued.fileSize, hd]
    show live.size = _
    rw [hsize]
    cases handle <;> rfl

section Opening

variable {settings : Settings} {bufferDir : Path} {destination : Destination}
  {s : Sink} {w₀ w : World} {dir : Location} {name : Name}

/-- A live file that has been opened where nothing but a regular file was holds what was there. -/
theorem file_of_openAt {path : Path} {live : LiveFile}
    (h : LiveFile.openAt path w₀ = (.ok live, w)) (sound : w₀.disk.Sound)
    (place : w₀.disk.goal path = .ok (.entry dir name, false))
    (filed : w₀.disk.Filed (dir ++ [name])) :
    ∃ id, Site w.disk path dir name ∧ w.disk.node? (dir ++ [name]) = some (.file id) ∧
      w.disk.content id = (w₀.disk.fileAt? (dir ++ [name])).getD [] ∧ live.path = path ∧
      live.counters.name = name ∧ live.handle = some (.file id) := by
  obtain ⟨name', handle, faults, faults', d, hname, hop, hdisk, hpath, hhandle, hcounters, -⟩ :=
    LiveFile.openAt_ok h
  obtain ⟨valid, only⟩ := Disk.only_of_goal place
  obtain rfl : name = name' := by
    rw [only.endsIn.fileName? only.plain] at hname
    exact Option.some.inj hname
  obtain ⟨id, rfl, alters, hnode, -, hcontent⟩ :=
    (only.withFaults faults).openForWriting_alters (sound.withFaults faults) filed hop
  have site : Site d path dir name :=
    ⟨alters.sound, valid, (only.withFaults faults).of_narrows alters.narrows⟩
  rw [hdisk]
  exact ⟨id, site.withFaults faults', hnode, hcontent, hpath, hcounters, hhandle⟩

/-- The live file is open, and nothing else in the directory has changed. -/
theorem live_of_openLive (h : Sink.openLive settings bufferDir destination w₀ = (.ok s, w))
    (sound : w₀.disk.Sound)
    (place : w₀.disk.goal (bufferDir.join settings.baseName) = .ok (.entry dir name, false))
    (regular : ∀ node, w₀.disk.node? (dir ++ [name]) = some node → ∃ id, node = .file id) :
    ∃ id, Site w.disk (bufferDir.join settings.baseName) dir name ∧
      w.disk.node? (dir ++ [name]) = some (.file id) ∧
      w.disk.content id = (w₀.disk.fileAt? (dir ++ [name])).getD [] ∧
      s.live.path = bufferDir.join settings.baseName ∧ s.live.counters.name = name ∧
      s.live.handle = some (.file id) ∧ s.uploads = [] ∧ s.outcomes = [] ∧
      (s.pending = [] ∨
        Leftovers.scan bufferDir settings.baseName w.disk = .ok (s.pending, w.disk)) := by
  obtain ⟨live, w₁, hopen, rfl, hdisk⟩ := Sink.openLive_ok h
  obtain ⟨id, site, hnode, hcontent, hlive⟩ := file_of_openAt hopen sound place (regular _)
  have queued := Sink.queued_leftovers (Sink.ofParts settings bufferDir destination live) w₁
  obtain ⟨faults, hdisk'⟩ := queued.disk
  have hpending := queued.pending
  rw [hdisk'] at hdisk hpending
  rw [queued.live, hdisk]
  refine ⟨id, site.withFaults faults, hnode, hcontent, hlive.1, hlive.2.1, hlive.2.2,
    queued.uploads, queued.outcomes, ?_⟩
  rcases hpending with hpending | ⟨found, hpending, hscan⟩
  · exact .inl hpending
  · rw [hpending]
    exact .inr hscan

/-- A file that a scan has found is a regular file of its own in the directory of the live
file. -/
theorem placed_of_scan {d : Disk} {found : List Path} {base : Name}
    (site : Site d (bufferDir.join base) dir name)
    (h : Leftovers.scan bufferDir base d = .ok (found, d)) :
    (∀ q ∈ found, ∃ other id, Placed (bufferDir.join base) dir name d q other id) ∧
      (found.map Path.fileName?).Nodup := by
  obtain ⟨-, loc, entries, hfind, hperm, rfl⟩ := Leftovers.scan_ok h
  have hentry : ∀ entry ∈ entries.filter (Leftovers.isRolled base), ∃ id,
      d.node? (loc ++ [entry.1]) = some (.file id) ∧ Plain entry.1 ∧ base <+: entry.1 ∧
        base ≠ entry.1 := by
    intro entry hmem
    obtain ⟨hmem, hrolled⟩ := List.mem_filter.mp hmem
    exact Leftovers.node_of_isRolled site.sound (hperm.mem_iff.mp hmem) hrolled
  have hplaced : ∀ entry ∈ entries.filter (Leftovers.isRolled base), ∃ id,
      Placed (bufferDir.join base) dir name d (bufferDir.join entry.1) entry.1 id := by
    intro entry hmem
    obtain ⟨id, hnode, hplain, hfront, hne⟩ := hentry entry hmem
    -- the live file's name is in front of another name, so it is the one that its path ends in
    have hslash : '/' ∉ base := fun hmem => hplain.no_slash (hfront.subset hmem)
    obtain rfl : base = name := (Path.endsIn_join bufferDir hslash).unique site.only.endsIn
    have hloc : loc = dir := by
      obtain ⟨-, used, hused, hwalk⟩ := Disk.find_dir_iff.mp hfind
      have horigin : d.origin (bufferDir.join base) = d.origin bufferDir := by
        rw [Disk.origin, Disk.origin, Path.isAbsolute_join _ site.only.plain]
      rw [← horigin] at hwalk
      exact site.only.walk site.valid (Path.steps_join bufferDir site.only.plain) hused hwalk
    subst hloc
    exact ⟨id, Path.beside_join bufferDir site.only.plain hplain, hplain, hne.symm, hnode⟩
  constructor
  · intro q hq
    obtain ⟨entry, hmem, rfl⟩ := List.mem_map.mp hq
    obtain ⟨id, hplaced⟩ := hplaced entry hmem
    exact ⟨entry.1, id, hplaced⟩
  · rw [List.map_map]
    have hnames : (entries.filter (Leftovers.isRolled base)).map
        (Path.fileName? ∘ fun entry => bufferDir.join entry.1)
        = ((entries.filter (Leftovers.isRolled base)).map Prod.fst).map some := by
      rw [List.map_map]
      refine List.map_congr_left fun entry hmem => ?_
      obtain ⟨id, hplaced⟩ := hplaced entry hmem
      exact hplaced.fileName?
    rw [hnames]
    refine List.Nodup.map (fun _ _ heq => Option.some.inj heq) ?_
    have hnodup := (hperm.map Prod.fst).nodup_iff.mpr (Disk.nodup_children site.sound)
    exact hnodup.sublist (List.filter_sublist.map _)

theorem buffer_of_openLive (h : Sink.openLive settings bufferDir destination w₀ = (.ok s, w))
    (sound : w₀.disk.Sound)
    (place : w₀.disk.goal (bufferDir.join settings.baseName) = .ok (.entry dir name, false))
    (regular : ∀ node, w₀.disk.node? (dir ++ [name]) = some node → ∃ id, node = .file id) :
    Buffer dir name { sink := s, world := w, deeds := [] } := by
  obtain ⟨id, site, hnode, -, hpath, hname, hhandle, huploads, houtcomes, hpending⟩ :=
    live_of_openLive h sound place regular
  have hwaiting : s.waiting = s.pending := by
    simp [Sink.waiting, huploads, houtcomes]
  have hfound : (∀ q ∈ s.pending, ∃ other id,
      Placed (bufferDir.join settings.baseName) dir name w.disk q other id) ∧
        (s.pending.map Path.fileName?).Nodup := by
    rcases hpending with hnone | hscan
    · rw [hnone]
      exact ⟨by simp, List.nodup_nil⟩
    · exact placed_of_scan site hscan
  refine
    { site := hpath.symm ▸ site
      called := hname
      entry := .inr ⟨id, hnode⟩
      handle := fun hopen => ⟨id, Option.some.inj (hopen.symm.trans hhandle), hnode⟩
      placed := fun q hq => ?_
      apart := ?_
      reading := fun u hu => ?_
      standing := fun q bytes hq => ?_ }
  · rw [hwaiting] at hq
    rw [hpath]
    exact hfound.1 q hq
  · rw [hwaiting]
    exact hfound.2
  · rw [huploads] at hu
    exact absurd hu List.not_mem_nil
  · obtain ⟨before, after, heq, -⟩ := hq
    exact absurd heq.symm (by simp)

end Opening

end Course

end Outbox
