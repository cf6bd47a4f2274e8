import Outbox.Proofs.Sink.Calls

/-!
# Steps in the buffer directory

Every step keeps what the sink relies on in its buffer directory. A rollover is taken in three
parts: what the live file holds is put away, an empty one is opened, and the rolled file arrives
among those that wait.
-/

set_option autoImplicit false

namespace Outbox

namespace Course

variable {dir : Location} {name : Name} {c c' : Course}

/-! ### The live file -/

theorem unclosing_nil : Unclosing [] := fun _ _ => List.not_mem_nil

theorem unclosing_started (s s' : Sink) : Unclosing (started s s') := by
  intro q bytes h
  obtain ⟨u, -, hu⟩ := List.mem_map.mp h
  exact absurd hu (by simp)

theorem unclosing_delivery (u u' : Upload) (w : World) : Unclosing (delivery u u' w) := by
  intro q bytes
  rw [delivery]
  split <;> simp

theorem spares_setContent {d : Disk} {path : Path} {id : Nat}
    (site : Site d path dir name) (hnode : d.node? (dir ++ [name]) = some (.file id))
    (bytes : Bytes) : Spares path dir name d (d.setContent id bytes) where
  sound := site.sound.setContent id bytes
  way := (site.only.of_narrows (d.narrows_setContent id bytes)).goal
  entries := fun _ => rfl
  contents := by
    intro other id' hother hnode'
    have hne : id' ≠ id := by
      rintro rfl
      have hloc := site.sound.single hnode' hnode
      exact hother (by simpa using hloc)
    rw [Disk.content_setContent d id id' bytes (site.sound.numbered hnode), if_neg hne]

/-- Faults that have been used up before the files were spared. -/
theorem spares_of_faults {d d' : Disk} {path : Path} {faults : List (Option OsError)}
    (h : Spares path dir name { d with faults } d') : Spares path dir name d d' :=
  ⟨h.sound, h.way, h.entries, h.contents⟩

theorem Buffer.append (h : Buffer dir name c) (record : Bytes) :
    Buffer dir name (c.append record) := by
  cases h.appends record with
  | failed s w faults sink disk course =>
    subst sink
    rw [course]
    refine h.change_live (Remains.refl _) ?_ rfl rfl rfl (List.append_nil _).symm unclosing_nil
    rw [disk]
    exact (h.site.untouched faults).toSpares
  | written s live w id faults sink remains node disk course =>
    subst sink
    rw [course]
    refine h.change_live remains ?_ rfl rfl rfl rfl (fun q bytes => by simp)
    rw [disk]
    exact spares_of_faults (spares_setContent (h.site.withFaults faults) node _)

/-! ### Rolling over -/

section Moves

variable {target : Path} {other : Name} {w : World} {id : Nat}

theorem Buffer.placed_of_moves {q : Path} {other' : Name} {id' : Nat} (h : Buffer dir name c)
    (moves : LiveFile.Moves c.sink.live.path dir name target other c.world.disk w.disk)
    (hnode : c.world.disk.node? (dir ++ [name]) = some (.file id))
    (placed : Placed c.sink.live.path dir name c.world.disk q other' id') :
    q.fileName? ≠ some other ∧ Placed c.sink.live.path dir name w.disk q other' id' := by
  have hother : other' ≠ other := by
    rintro rfl
    exact moves.not_file id' placed.node
  constructor
  · rw [placed.fileName?, ne_eq, Option.some.injEq]
    exact hother
  · apply placed.of_node
    rw [moves.node? h.site hnode, if_neg (by simpa using hother), if_neg (by simpa using placed.ne)]

/-- What the live file holds has been put away: its entry has another name, under which nothing
was waiting. -/
theorem Buffer.moved (h : Buffer dir name c)
    (hmoved : c.sink.live.putAway LiveFile.stampPattern c.world = .moved target w) :
    ∃ other id, Placed c.sink.live.path dir name w.disk target other id ∧
      w.disk.node? (dir ++ [name]) = none ∧
      (∀ q ∈ c.sink.waiting, q.fileName? ≠ some other) ∧
      (∀ q bytes, Standing (c.deeds ++ [.closed target (c.sink.live.bytes c.world.disk)]) q bytes →
        q.fileName? = some other → q = target) ∧
      Buffer dir name
        { sink := { c.sink with live := { c.sink.live with handle := none } }, world := w
          deeds := c.deeds ++ [.closed target (c.sink.live.bytes c.world.disk)] } := by
  obtain ⟨id, hhandle, hnode⟩ := h.open_of_putAway (by simp [hmoved])
  obtain ⟨other, moves⟩ := LiveFile.putAway_moved h.site h.called hnode hmoved
  have hbytes : c.sink.live.bytes c.world.disk = w.disk.content id := by
    rw [LiveFile.bytes, hhandle, moves.content]
    rfl
  have placed : Placed c.sink.live.path dir name w.disk target other id :=
    { beside := moves.beside
      plain := moves.follows.plain h.site.only.plain
      ne := moves.follows.ne.symm
      node := by rw [moves.node? h.site hnode, if_pos rfl] }
  have hnone : w.disk.node? (dir ++ [name]) = none := by
    rw [moves.node? h.site hnode, if_neg moves.ne, if_pos rfl]
  have fresh : ∀ q ∈ c.sink.waiting, q.fileName? ≠ some other := by
    intro q hq
    obtain ⟨other', id', hplaced⟩ := h.placed q hq
    exact (h.placed_of_moves moves hnode hplaced).1
  -- what stands is what stood, and the file that was put away
  have hstanding : ∀ {q : Path} {bytes : Bytes},
      Standing (c.deeds ++ [.closed target (c.sink.live.bytes c.world.disk)]) q bytes →
        Standing c.deeds q bytes ∨ (target = q ∧ c.sink.live.bytes c.world.disk = bytes) := by
    intro q bytes hstanding
    rcases standing_concat.mp hstanding with ⟨hbefore, -⟩ | hclosed
    · exact .inl hbefore
    · exact .inr (Deed.closed.inj hclosed)
  refine ⟨other, id, placed, hnone, fresh, fun q bytes hq hname => ?_, ?_⟩
  · rcases hstanding hq with hbefore | ⟨rfl, -⟩
    · obtain ⟨other', id', hplaced, -⟩ := h.standing q bytes hbefore
      exact absurd hname (h.placed_of_moves moves hnode hplaced).1
    · rfl
  refine
    { site := moves.site h.site hnode
      called := h.called
      entry := .inl hnone
      handle := fun hhandle => absurd hhandle (by simp)
      placed := fun q hq => ?_
      apart := h.apart
      reading := fun u hu source stage hphase => ?_
      standing := fun q bytes hq => ?_ }
  · obtain ⟨other', id', hplaced⟩ := h.placed q hq
    exact ⟨other', id', (h.placed_of_moves moves hnode hplaced).2⟩
  · obtain ⟨other', id', hplaced, hsource⟩ := h.reading u hu source stage hphase
    exact ⟨other', id', (h.placed_of_moves moves hnode hplaced).2, hsource⟩
  · rcases hstanding hq with hbefore | ⟨rfl, rfl⟩
    · obtain ⟨other', id', hplaced, hcontent, hrest⟩ := h.standing q bytes hbefore
      exact ⟨other', id', (h.placed_of_moves moves hnode hplaced).2,
        (moves.content id').trans hcontent, hrest⟩
    · refine ⟨other, id, placed, hbytes.symm, fun u hu hphase => ?_, fun q' hq' hname => ?_⟩
      · exact fresh u.path (mem_waiting hu (by simp [Upload.needsFile, hphase]))
      · exact absurd hname (fresh q' hq')

end Moves

theorem Buffer.opened {w : World} {faults : List (Option OsError)} (h : Buffer dir name c)
    (live : LiveFile) (hnone : c.world.disk.node? (dir ++ [name]) = none)
    (hdir : c.world.disk.node? dir = some .dir) (hpath : live.path = c.sink.live.path)
    (hname : live.counters.name = c.sink.live.counters.name)
    (hhandle : live.handle = some (.file c.world.disk.contents.length))
    (hdisk : w.disk = { (c.world.disk.putNewFile (dir ++ [name])).1 with faults }) :
    Buffer dir name { c with sink := { c.sink with live }, world := w } := by
  have hlookup : ∀ loc, w.disk.node? loc
      = if loc = dir ++ [name] then some (.file c.world.disk.contents.length)
        else c.world.disk.node? loc := by
    intro loc
    rw [hdisk, Disk.node?_faults, Disk.node?_putNewFile _ _ _ (by simp)]
  have hcontent : ∀ id, w.disk.content id = c.world.disk.content id := by
    intro id
    rw [hdisk, Disk.content_faults, Disk.content_putNewFile]
  have hmove : ∀ {q : Path} {other : Name} {id : Nat},
      Placed c.sink.live.path dir name c.world.disk q other id →
        Placed live.path dir name w.disk q other id := by
    intro q other id hplaced
    rw [hpath]
    exact hplaced.of_node (by rw [hlookup, if_neg (by simpa using hplaced.ne)])
  have hnode : w.disk.node? (dir ++ [name]) = some (.file c.world.disk.contents.length) := by
    rw [hlookup, if_pos rfl]
  have hnarrows : c.world.disk.Narrows w.disk := by
    rw [hdisk]
    exact (c.world.disk.narrows_putNewFile _ (by simp)).trans (Disk.narrows_faults _ _)
  exact
    { site := by
        refine ⟨?_, hpath ▸ h.site.valid, hpath ▸ h.site.only.of_narrows hnarrows⟩
        rw [hdisk]
        exact (h.site.sound.putNewFile hdir h.site.only.plain hnone).withFaults faults
      called := hname.trans h.called
      entry := .inr ⟨_, hnode⟩
      handle := fun hopen => ⟨_, Option.some.inj (hopen.symm.trans hhandle), hnode⟩
      placed := fun q hq => by
        obtain ⟨other, id, hplaced⟩ := h.placed q hq
        exact ⟨other, id, hmove hplaced⟩
      apart := h.apart
      reading := fun u hu source stage hphase => by
        obtain ⟨other, id, hplaced, hsource⟩ := h.reading u hu source stage hphase
        exact ⟨other, id, hmove hplaced, hsource⟩
      standing := fun q bytes hq => by
        obtain ⟨other, id, hplaced, hbytes, hrest⟩ := h.standing q bytes hq
        exact ⟨other, id, hmove hplaced, (hcontent id).trans hbytes, hrest⟩ }

/-- A file arrives among those that wait. -/
theorem Buffer.arrived {target : Path} {other : Name} {id : Nat} {deeds : List Deed}
    (h : Buffer dir name c)
    (placed : Placed c.sink.live.path dir name c.world.disk target other id)
    (fresh : ∀ q ∈ c.sink.waiting, q.fileName? ≠ some other)
    (alone : ∀ q bytes, Standing c.deeds q bytes → q.fileName? = some other → q = target)
    (live : Remains c.sink.live c'.sink.live) (world : c'.world = c.world)
    (waiting : c'.sink.waiting.Perm (target :: c.sink.waiting))
    (uploads : ∀ u ∈ c'.sink.uploads, u ∈ c.sink.uploads ∨ u.phase = .opening)
    (hdeeds : c'.deeds = c.deeds ++ deeds) (unclosing : Unclosing deeds) :
    Buffer dir name c' where
  site := by
    rw [live.path, world]
    exact h.site
  called := live.name.trans h.called
  entry := by
    rw [world]
    exact h.entry
  handle := by
    intro handle hhandle
    rw [world]
    rcases live.handle with heq | hnone
    · rw [heq] at hhandle
      exact h.handle hhandle
    · rw [hnone] at hhandle
      exact absurd hhandle (by simp)
  placed := by
    intro q hq
    rw [live.path, world]
    rcases List.mem_cons.mp (waiting.mem_iff.mp hq) with rfl | hq
    · exact ⟨other, id, placed⟩
    · exact h.placed q hq
  apart := by
    rw [(waiting.map Path.fileName?).nodup_iff, List.map_cons, List.nodup_cons]
    refine ⟨fun hmem => ?_, h.apart⟩
    obtain ⟨q, hq, hname⟩ := List.mem_map.mp hmem
    exact fresh q hq (hname.trans placed.fileName?)
  reading := by
    intro u hu source stage hphase
    rw [live.path, world]
    rcases uploads u hu with hu | hopening
    · exact h.reading u hu source stage hphase
    · rw [hopening] at hphase
      exact absurd hphase (by simp)
  standing := by
    intro q bytes hq
    rw [hdeeds] at hq
    have hbefore := (standing_append unclosing hq).1
    obtain ⟨other', id', hplaced, hbytes, hremoving, hwaiting⟩ := h.standing q bytes hbefore
    rw [live.path, world]
    refine ⟨other', id', hplaced, hbytes, ?_, ?_⟩
    · intro u hu hphase
      rcases uploads u hu with hu | hopening
      · exact hremoving u hu hphase
      · rw [hopening] at hphase
        exact absurd hphase (by simp)
    · intro q' hq' hname
      rcases List.mem_cons.mp (waiting.mem_iff.mp hq') with rfl | hq'
      · refine (alone q bytes hbefore ?_).symm
        rw [hplaced.fileName?, ← hname, placed.fileName?]
      · exact hwaiting q' hq' hname

theorem waiting_dispatch (s : Sink) (path : Path) :
    (s.dispatch path).waiting.Perm (path :: s.waiting) := by
  have hnew : ([Upload.ofPath path].filter Upload.needsFile).map Upload.path = [path] := rfl
  simp only [Sink.waiting, Sink.dispatch, Sink.publish, List.filter_append, List.map_append, hnew,
    List.append_assoc, List.singleton_append]
  rw [← List.append_assoc, ← List.append_assoc]
  exact List.perm_middle

theorem waiting_enqueue (s : Sink) (path : Path) :
    (s.enqueue path).waiting.Perm (path :: s.waiting) := by
  simp only [Sink.waiting, Sink.enqueue, Sink.publish, List.append_assoc, List.singleton_append]
  exact List.perm_middle

theorem waiting_dispatchNext (s : Sink) : s.dispatchNext.waiting.Perm s.waiting := by
  rw [Sink.dispatchNext]
  split
  · exact .refl _
  · split
    · exact .refl _
    · next path rest hpending =>
      have hwaiting : s.waiting = path :: Sink.waiting { s with pending := rest } := by
        simp only [Sink.waiting, hpending, List.cons_append]
      rw [hwaiting]
      exact waiting_dispatch _ path

theorem mem_uploads_dispatch {s : Sink} {path : Path} {u : Upload}
    (h : u ∈ (s.dispatch path).uploads) : u ∈ s.uploads ∨ u.phase = .opening := by
  rcases List.mem_append.mp h with h | h
  · exact .inl h
  · rw [List.mem_singleton] at h
    exact .inr (by rw [h]; rfl)

theorem Arrives.waiting {s s' : Sink} {target : Path} (h : Arrives s target s') :
    s'.waiting.Perm (target :: s.waiting) := by
  rcases h with rfl | rfl
  · exact waiting_enqueue s target
  · exact waiting_dispatch s target

theorem Arrives.uploads {s s' : Sink} {target : Path} (h : Arrives s target s') :
    ∀ u ∈ s'.uploads, u ∈ s.uploads ∨ u.phase = .opening := by
  rcases h with rfl | rfl
  · exact fun u hu => .inl hu
  · exact fun u hu => mem_uploads_dispatch hu

theorem Arrives.live {s s' : Sink} {target : Path} (h : Arrives s target s') :
    s'.live = s.live := by
  rcases h with rfl | rfl <;> rfl

theorem Buffer.rollOver (h : Buffer dir name c) : Buffer dir name c.rollOver := by
  cases h.rollsOver with
  | kept live w faults remains disk course =>
    rw [course]
    refine h.change_live remains ?_ rfl rfl rfl (List.append_nil _).symm unclosing_nil
    rw [disk]
    exact (h.site.untouched faults).toSpares
  | closed target w w' faults moved disk course =>
    obtain ⟨other, id, -, -, -, -, hput⟩ := h.moved moved
    rw [course]
    refine hput.change_live (Remains.refl _) ?_ rfl rfl rfl (List.append_nil _).symm unclosing_nil
    rw [disk]
    exact (hput.site.untouched faults).toSpares
  | rolled target w w' live s faults moved opened parent disk arrives course =>
    obtain ⟨other, id, placed, hnone, fresh, alone, hput⟩ := h.moved moved
    subst opened
    -- the live file is open again before the rolled file arrives
    have hopened := hput.opened
      { c.sink.live with handle := some (.file w.disk.contents.length) } hnone parent rfl rfl rfl
      disk
    have placed' : Placed c.sink.live.path dir name w'.disk target other id := by
      apply placed.of_node
      rw [disk, Disk.node?_faults, Disk.node?_putNewFile _ _ _ (by simp),
        if_neg (by simpa using placed.ne)]
    have remains : Remains { c.sink.live with handle := some (.file w.disk.contents.length) }
        s.live := by
      rw [arrives.live]
      exact ⟨rfl, rfl, .inl rfl⟩
    rw [course]
    refine hopened.arrived placed' fresh alone remains rfl arrives.waiting arrives.uploads rfl ?_
    intro q bytes hmem
    rcases List.mem_cons.mp hmem with heq | hmem
    · exact absurd heq (by simp)
    · exact unclosing_started _ _ q bytes hmem

/-! ### Uploads -/

theorem Buffer.dispatchNext (h : Buffer dir name c) : Buffer dir name c.dispatchNext := by
  have hspares := (h.site.untouched c.world.disk.faults).toSpares
  have same : c.sink.dispatchNext = c.sink → Buffer dir name c.dispatchNext := by
    intro hnext
    have heq : c.dispatchNext = { c with deeds := c.deeds ++ started c.sink c.sink } := by
      simp only [Course.dispatchNext, go, hnext, List.nil_append, List.append_nil]
    rw [heq]
    exact h.change_live (Remains.refl _) hspares rfl rfl rfl rfl (unclosing_started _ _)
  by_cases hcapacity : c.sink.atCapacity
  · exact same (by rw [Sink.dispatchNext, if_pos hcapacity])
  cases hpending : c.sink.pending with
  | nil => exact same (by rw [Sink.dispatchNext, if_neg hcapacity, hpending])
  | cons path rest =>
    have hnext : c.sink.dispatchNext = { c.sink with pending := rest }.dispatch path := by
      rw [Sink.dispatchNext, if_neg hcapacity, hpending]
    have heq : c.dispatchNext
        = { sink := { c.sink with pending := rest }.dispatch path, world := c.world
            deeds := c.deeds
              ++ started c.sink ({ c.sink with pending := rest }.dispatch path) } := by
      simp only [Course.dispatchNext, go, hnext, List.nil_append, List.append_nil]
    rw [heq]
    have hwaiting := waiting_dispatchNext c.sink
    rw [hnext] at hwaiting
    refine h.change (Remains.refl _) hspares hwaiting.subperm ?_ ?_
    · intro u hu source stage hphase
      rcases mem_uploads_dispatch hu with hu | hopening
      · exact h.reading u hu source stage hphase
      · rw [hopening] at hphase
        exact absurd hphase (by simp)
    · intro q bytes hq
      have hbefore := (standing_append (unclosing_started _ _) hq).1
      obtain ⟨other, id, hplaced, -, hremoving, -⟩ := h.standing q bytes hbefore
      refine ⟨hbefore, fun u hu hphase => ?_⟩
      rw [hplaced.fileName?]
      rcases mem_uploads_dispatch hu with hu | hopening
      · exact hremoving u hu hphase
      · rw [hopening] at hphase
        exact absurd hphase (by simp)

/-- The part of an upload in what waits. -/
def share (u : Upload) : List Path :=
  if u.needsFile then [u.path] else []

theorem mem_of_among {uploads before after : List Upload} {u v : Upload}
    (among : uploads = before ++ u :: after) (hv : v ∈ before ++ after) : v ∈ uploads := by
  rw [among, List.perm_middle.mem_iff]
  exact List.mem_cons_of_mem _ hv

theorem waiting_among {s : Sink} {before after : List Upload} {u : Upload}
    (among : s.uploads = before ++ u :: after) :
    s.waiting.Perm (share u ++ Sink.waiting { s with uploads := before ++ after }) := by
  have hshare : ((u :: after).filter Upload.needsFile).map Upload.path
      = share u ++ (after.filter Upload.needsFile).map Upload.path := by
    rw [share]
    by_cases h : u.needsFile
    · rw [List.filter_cons_of_pos h, if_pos h, List.map_cons, List.singleton_append]
    · rw [List.filter_cons_of_neg h, if_neg h, List.nil_append]
  simp only [Sink.waiting, among, List.filter_append, List.map_append, hshare]
  generalize (before.filter Upload.needsFile).map Upload.path = first
  generalize (after.filter Upload.needsFile).map Upload.path = second
  rw [List.perm_iff_count]
  intro path
  simp only [List.count_append]
  omega

theorem Buffer.names_apart {before after : List Upload} {u : Upload} (h : Buffer dir name c)
    (among : c.sink.uploads = before ++ u :: after) (needs : u.needsFile = true) :
    ∀ q ∈ Sink.waiting { c.sink with uploads := before ++ after },
      q.fileName? ≠ u.path.fileName? := by
  have hwaiting := waiting_among among
  rw [share, if_pos needs] at hwaiting
  have hnodup := (hwaiting.map Path.fileName?).nodup_iff.mp h.apart
  rw [List.singleton_append, List.map_cons, List.nodup_cons] at hnodup
  intro q hq hname
  apply hnodup.1
  rw [← hname]
  exact List.mem_map_of_mem hq

/-- What is delivered meanwhile has another name. -/
theorem Buffer.other_delivery {before after : List Upload} {u v : Upload} {other : Name}
    {id id' : Nat} {stage : Delivery} (h : Buffer dir name c)
    (among : c.sink.uploads = before ++ u :: after) (needs : u.needsFile = true)
    (placed : Placed c.sink.live.path dir name c.world.disk u.path other id)
    (hv : v ∈ before ++ after) (hphase : v.phase = .delivering (.file id') stage) :
    ∃ other', Placed c.sink.live.path dir name c.world.disk v.path other' id' ∧
      other' ≠ other := by
  obtain ⟨other', id'', placed', hid⟩ := h.reading v (mem_of_among among hv) _ _ hphase
  obtain rfl := Handle.file.inj hid
  refine ⟨other', placed', ?_⟩
  rintro rfl
  apply h.names_apart among needs v.path
  · exact mem_waiting hv (by simp [Upload.needsFile, hphase])
  · rw [placed.fileName?, placed'.fileName?]

/-- An upload that goes on waits for no other file. -/
theorem waiting_goUpload {before after uploads : List Upload} {u : Upload}
    {result : Upload × Destination × World} (among : c.sink.uploads = before ++ u :: after)
    (perm : uploads.Perm (result.1 :: (before ++ after))) (path : result.1.path = u.path)
    (needs : result.1.needsFile = true → u.needsFile = true) :
    (c.goUpload u result uploads).sink.waiting.Subperm c.sink.waiting := by
  have hbefore := waiting_among among
  have hafter : (c.goUpload u result uploads).sink.waiting.Perm
      (share result.1 ++ Sink.waiting { c.sink with uploads := before ++ after }) := by
    have hfirst := @waiting_among { c.sink with
      uploads := result.1 :: (before ++ after), destination := result.2.1 } [] (before ++ after)
      result.1 rfl
    refine List.Perm.trans ?_ hfirst
    refine List.Perm.append_right _ (List.Perm.append_left _ ?_)
    exact (perm.filter _).map _
  refine hafter.subperm.trans (List.Subperm.trans ?_ hbefore.symm.subperm)
  refine List.Sublist.subperm (List.Sublist.append_right ?_ _)
  rw [share, share]
  by_cases hneeds : result.1.needsFile
  · rw [if_pos hneeds, if_pos (needs hneeds), path]
  · rw [if_neg hneeds]
    exact List.nil_sublist _

theorem Buffer.goUpload {before after uploads : List Upload} {u : Upload}
    {result : Upload × Destination × World} (h : Buffer dir name c)
    (among : c.sink.uploads = before ++ u :: after)
    (perm : uploads.Perm (result.1 :: (before ++ after))) (path : result.1.path = u.path)
    (spares : Spares c.sink.live.path dir name c.world.disk result.2.2.disk)
    (needs : result.1.needsFile = true → u.needsFile = true)
    (reading : ∀ source stage, result.1.phase = .delivering source stage →
      ∃ other id, Placed c.sink.live.path dir name c.world.disk u.path other id ∧
        source = .file id)
    (taken : result.1.phase = .removing → u.phase = .removing ∨
      ∃ bytes, .delivered u.path bytes ∈ delivery u result.1 c.world) :
    Buffer dir name (c.goUpload u result uploads) := by
  have huploads : ∀ v ∈ uploads, v = result.1 ∨ v ∈ c.sink.uploads := by
    intro v hv
    rcases List.mem_cons.mp (perm.mem_iff.mp hv) with rfl | hv
    · exact .inl rfl
    · exact .inr (mem_of_among among hv)
  have hu : u ∈ c.sink.uploads := by simp [among]
  refine h.change (Remains.refl _) spares (waiting_goUpload among perm path needs) ?_ ?_
  · intro v hv source stage hphase
    rcases huploads v hv with rfl | hv
    · rw [path]
      exact reading source stage hphase
    · exact h.reading v hv source stage hphase
  · intro q bytes hq
    obtain ⟨hbefore, htaken⟩ := standing_append (unclosing_delivery _ _ _) hq
    obtain ⟨other, id, hplaced, -, hremoving, hwaiting⟩ := h.standing q bytes hbefore
    refine ⟨hbefore, fun v hv hphase => ?_⟩
    rw [hplaced.fileName?]
    rcases huploads v hv with rfl | hv
    · rw [path]
      rcases taken hphase with hbefore | ⟨bytes', hdeed⟩
      · exact hremoving u hu hbefore
      -- what stood under this name would have been the file that was taken
      intro hname
      have hneeds : u.needsFile = true := needs (by simp [Upload.needsFile, hphase])
      have hin := mem_waiting hu hneeds
      rw [hwaiting u.path hin hname] at hdeed
      exact htaken bytes' hdeed
    · exact hremoving v hv hphase

theorem Buffer.take {other : Name} {id : Nat} {w : World} {faults : List (Option OsError)}
    (h : Buffer dir name c) (hnode : c.world.disk.node? (dir ++ [other]) = some (.file id))
    (hne : other ≠ name) (free : ∀ q ∈ c.sink.waiting, q.fileName? ≠ some other)
    (fallen : ∀ q bytes, Standing c.deeds q bytes → q.fileName? ≠ some other)
    (hdisk : w.disk = { c.world.disk.take (dir ++ [other]) with faults }) :
    Buffer dir name { c with world := w } := by
  have hlookup : ∀ loc, w.disk.node? loc
      = if loc = dir ++ [other] then none else c.world.disk.node? loc := by
    intro loc
    rw [hdisk, Disk.node?_faults, Disk.node?_take _ _ _ (by simp)]
  have hcontent : ∀ id, w.disk.content id = c.world.disk.content id := by
    intro id
    rw [hdisk]
    rfl
  have hmove : ∀ {q : Path} {other' : Name} {id' : Nat},
      Placed c.sink.live.path dir name c.world.disk q other' id' → q.fileName? ≠ some other →
        Placed c.sink.live.path dir name w.disk q other' id' := by
    intro q other' id' hplaced hname
    refine hplaced.of_node ?_
    rw [hlookup, if_neg]
    intro heq
    rw [hplaced.fileName?] at hname
    apply hname
    simpa using heq
  have hlive : w.disk.node? (dir ++ [name]) = c.world.disk.node? (dir ++ [name]) := by
    rw [hlookup, if_neg (by simpa using hne.symm)]
  have hnarrows : c.world.disk.Narrows w.disk := by
    rw [hdisk]
    exact (c.world.disk.narrows_take (by simp)).trans (Disk.narrows_faults _ _)
  refine
    { site := ⟨?_, h.site.valid, h.site.only.of_narrows hnarrows⟩
      called := h.called
      entry := hlive.symm ▸ h.entry
      handle := fun hhandle => ?_
      placed := fun q hq => ?_
      apart := h.apart
      reading := fun u hu source stage hphase => ?_
      standing := fun q bytes hq => ?_ }
  · rw [hdisk]
    exact (h.site.sound.take hnode (by simp)).withFaults faults
  · rw [hlive]
    exact h.handle hhandle
  · obtain ⟨other', id', hplaced⟩ := h.placed q hq
    exact ⟨other', id', hmove hplaced (free q hq)⟩
  · obtain ⟨other', id', hplaced, hsource⟩ := h.reading u hu source stage hphase
    have hin := mem_waiting hu (by simp [Upload.needsFile, hphase])
    exact ⟨other', id', hmove hplaced (free _ hin), hsource⟩
  · obtain ⟨other', id', hplaced, hbytes, hrest⟩ := h.standing q bytes hq
    exact ⟨other', id', hmove hplaced (fallen q bytes hq), (hcontent id').trans hbytes, hrest⟩

theorem Buffer.turn {before after : List Upload} {u : Upload} (h : Buffer dir name c)
    (among : c.sink.uploads = before ++ u :: after)
    (delivers : ∀ {source stage}, u.phase = .delivering source stage →
      Hands c.sink.live.path dir name c.world (c.turn before u after).world) :
    Buffer dir name (c.turn before u after) := by
  have hu : u ∈ c.sink.uploads := by simp [among]
  have hpath := turn_path u c.sink.destination c.world
  cases h.turns hu with
  | idle phase w faults still needs reads stays disk turn =>
    rw [Course.turn, turn]
    refine h.goUpload among List.perm_middle rfl ?_ needs (fun source stage hstage => ?_)
      (fun hremoving => absurd hremoving stays)
    · rw [disk]
      exact (h.site.untouched faults).toSpares
    · exact (reads hstage).2
  | delivering source stage hphase =>
    have hneeds : u.needsFile = true := by simp [Upload.needsFile, hphase]
    have hturn : (u.turn c.sink.destination c.world).1.phase
        = Upload.afterTurn source (c.sink.destination.turn u.path source stage c.world).1 := by
      rw [Upload.turn, hphase]
    refine h.goUpload among List.perm_middle hpath (delivers hphase).toSpares (fun _ => hneeds)
      (fun source' stage' hstage => ?_) taken_of_turn
    rw [hturn] at hstage
    obtain ⟨other, id, hplaced, hsource⟩ := h.reading u hu source stage hphase
    rw [source_of_afterTurn hstage]
    exact ⟨other, id, hplaced, hsource⟩
  | removed other id w faults hphase placed disk turn =>
    have hneeds : u.needsFile = true := by simp [Upload.needsFile, hphase]
    -- the upload ends, and then its file is gone
    have hended : Buffer dir name (c.goUpload u
        ({ u with phase := .ended (.ok ()) }, c.sink.destination, c.world)
        (before ++ { u with phase := .ended (.ok ()) } :: after)) := by
      refine h.goUpload among List.perm_middle rfl (h.site.untouched c.world.disk.faults).toSpares
        (fun _ => hneeds) (fun source stage hstage => absurd hstage (by simp))
        (fun hremoving => absurd hremoving (by simp))
    rw [Course.turn, turn]
    refine hended.take placed.node placed.ne (fun q hq => ?_) (fun q bytes hq => ?_) disk
    · have hafter := @waiting_among { c.sink with
        uploads := before ++ { u with phase := .ended (.ok ()) } :: after } before after
        { u with phase := .ended (.ok ()) } rfl
      have hshare : share { u with phase := .ended (.ok ()) } = [] := rfl
      rw [hshare, List.nil_append] at hafter
      rw [← placed.fileName?]
      exact h.names_apart among hneeds q (hafter.mem_iff.mp hq)
    · have hbefore := (standing_append (unclosing_delivery _ _ _) hq).1
      obtain ⟨other', id', hplaced', -, hremoving, -⟩ := h.standing q bytes hbefore
      intro hname
      apply hremoving u hu hphase
      rw [placed.fileName?, ← hname, hplaced'.fileName?]

theorem Buffer.release {before after : List Upload} {u : Upload} {action : Action}
    (h : Buffer dir name c) (among : c.sink.uploads = before ++ u :: after)
    (delivers : Hands c.sink.live.path dir name c.world (c.release before u after action).world) :
    Buffer dir name (c.release before u after action) := by
  have hu : u ∈ c.sink.uploads := by simp [among]
  have hpath := release_path u action c.sink.destination c.world
  have hperm : (before ++ after ++ [(u.release action c.sink.destination c.world).1]).Perm
      ((u.release action c.sink.destination c.world).1 :: (before ++ after)) :=
    List.perm_append_comm
  refine h.goUpload among hperm hpath delivers.toSpares (fun hneeds => ?_)
    (fun source stage hstage => ?_) taken_of_release
  · rw [Upload.release] at hneeds
    split at hneeds
    · next hphase => simp [Upload.needsFile, hphase]
    · exact hneeds
  · rw [Upload.release] at hstage
    split at hstage
    · next source' hphase =>
      obtain ⟨other, id, hplaced, hsource⟩ := h.reading u hu source' .held hphase
      rw [source_of_afterTurn hstage]
      exact ⟨other, id, hplaced, hsource⟩
    · exact h.reading u hu source stage hstage

theorem waiting_handIn {before after : List Upload} {u : Upload}
    {result : Except UploadError Unit} (among : c.sink.uploads = before ++ u :: after)
    (ended : u.phase = .ended result) :
    (c.handIn (before ++ after) { path := u.path, result }).sink.waiting.Perm c.sink.waiting := by
  have hshare : share u
      = ([{ path := u.path, result : Outcome }].filter Outcome.isFailure).map Outcome.path := by
    cases result with
    | ok done =>
      rw [share, if_neg (by simp [Upload.needsFile, ended])]
      rfl
    | error e =>
      rw [share, if_pos (by simp [Upload.needsFile, ended])]
      rfl
  refine List.Perm.trans ?_ (waiting_among among).symm
  simp only [Course.handIn, Sink.waiting, List.filter_append c.sink.outcomes, List.map_append,
    ← hshare]
  rw [List.perm_iff_count]
  intro path
  simp only [List.count_append]
  omega

theorem Buffer.handIn {before after : List Upload} {u : Upload}
    {result : Except UploadError Unit} (h : Buffer dir name c)
    (among : c.sink.uploads = before ++ u :: after) (ended : u.phase = .ended result) :
    Buffer dir name (c.handIn (before ++ after) { path := u.path, result }) := by
  refine h.change (Remains.refl _) (h.site.untouched c.world.disk.faults).toSpares
    (waiting_handIn among ended).subperm (fun v hv => h.reading v (mem_of_among among hv))
    (fun q bytes hq => ?_)
  obtain ⟨other, id, hplaced, -, hremoving, -⟩ := h.standing q bytes hq
  refine ⟨hq, fun v hv hphase => ?_⟩
  rw [hplaced.fileName?]
  exact hremoving v (mem_of_among among hv) hphase

theorem settleOutcome_sink (s : Sink) (outcome : Outcome) (w : World) :
    (s.settleOutcome outcome w).1.live = s.live ∧
      (s.settleOutcome outcome w).1.uploads = s.uploads ∧
      (s.settleOutcome outcome w).1.outcomes = s.outcomes ∧
      (s.settleOutcome outcome w).1.pending
        = s.pending ++ ([outcome].filter Outcome.isFailure).map Outcome.path ∧
      (s.settleOutcome outcome w).2.disk = w.disk := by
  obtain ⟨path, result⟩ := outcome
  cases result with
  | ok done => exact ⟨rfl, rfl, rfl, (List.append_nil _).symm, rfl⟩
  | error e =>
    have htell : ∀ event, (Sink.tellMaybe event w).disk = w.disk := by
      intro event
      cases event <;> rfl
    exact ⟨rfl, rfl, rfl, rfl, htell _⟩

theorem waiting_settle {outcome : Outcome} {rest : List Outcome}
    (first : c.sink.outcomes = outcome :: rest) :
    (c.settle outcome rest).sink.waiting.Perm c.sink.waiting := by
  obtain ⟨-, huploads, houtcomes, hpending, -⟩ :=
    settleOutcome_sink { c.sink with outcomes := rest } outcome c.world
  rw [Course.settle, Sink.waiting, huploads, houtcomes, hpending, Sink.waiting, first]
  have hfirst : (outcome :: rest).filter Outcome.isFailure
      = [outcome].filter Outcome.isFailure ++ rest.filter Outcome.isFailure := by
    rw [← List.singleton_append, List.filter_append]
  rw [hfirst, List.map_append, List.perm_iff_count]
  intro path
  simp only [List.count_append]
  omega

theorem Buffer.settle {outcome : Outcome} {rest : List Outcome} (h : Buffer dir name c)
    (first : c.sink.outcomes = outcome :: rest) : Buffer dir name (c.settle outcome rest) := by
  obtain ⟨hlive, huploads, -, -, hdisk⟩ :=
    settleOutcome_sink { c.sink with outcomes := rest } outcome c.world
  refine h.change ?_ ?_ (waiting_settle first).subperm ?_ ?_
  · rw [Course.settle, hlive]
    exact Remains.refl _
  · rw [Course.settle, hdisk]
    exact (h.site.untouched c.world.disk.faults).toSpares
  · rw [Course.settle, huploads]
    exact h.reading
  · intro q bytes hq
    have hquiet : Unclosing [Deed.settled outcome] := by
      intro q bytes
      simp
    have hbefore := (standing_append hquiet hq).1
    obtain ⟨other, id, hplaced, -, hremoving, -⟩ := h.standing q bytes hbefore
    rw [Course.settle, huploads, hplaced.fileName?]
    exact ⟨hbefore, hremoving⟩

theorem Buffer.close (h : Buffer dir name c) : Buffer dir name c.close := by
  have remains : Remains c.sink.live (c.sink.live.close c.world).1 := by
    rw [LiveFile.close]
    split
    · exact Remains.refl _
    · exact ⟨rfl, rfl, .inr rfl⟩
  obtain ⟨faults, hdisk⟩ := c.sink.live.close_disk c.world
  refine h.change_live remains ?_ rfl rfl rfl (List.append_nil _).symm unclosing_nil
  rw [Course.close, hdisk]
  exact (h.site.untouched faults).toSpares

/-! ### Courses -/

/-- Every step keeps what the sink relies on, if others and deliveries leave the buffer directory
alone. -/
theorem Buffer.step {outside deliveries : World → World → Prop} (h : Buffer dir name c)
    (houtside : ∀ {w w'}, outside w w' → Hands c.sink.live.path dir name w w')
    (hdeliveries : ∀ {w w'}, deliveries w w' → Hands c.sink.live.path dir name w w')
    (step : Step outside deliveries c c') : Buffer dir name c' := by
  cases step with
  | output record =>
    rw [output_eq]
    split
    · split
      · exact h.rollOver.append record
      · exact h.rollOver
    · exact h.append record
  | rollOver => exact h.rollOver
  | tick =>
    rw [tick_eq]
    split
    · split
      · exact h.rollOver.dispatchNext
      · exact h.rollOver
    · exact h.dispatchNext
  | flag =>
    exact h.change_live (Remains.refl _) (h.site.untouched c.world.disk.faults).toSpares rfl rfl rfl
      (List.append_nil _).symm unclosing_nil
  | turn before u after among delivers =>
    exact h.turn among fun hphase => hdeliveries (delivers hphase)
  | release before u after action among delivers => exact h.release among (hdeliveries delivers)
  | handIn before u after result among ended => exact h.handIn among ended
  | settle outcome rest first => exact h.settle first
  | close => exact h.close
  | outside w acts =>
    exact h.change_live (Remains.refl _) (houtside acts).toSpares rfl rfl rfl
      (List.append_nil _).symm unclosing_nil

/-- What each step keeps of a sink whose files are in their places is kept along a whole course. -/
theorem Buffer.along {outside deliveries : World → World → Prop} {path : Path} {c₀ : Course}
    {kept : Course → Prop} (h : Buffer dir name c₀) (hpath : c₀.sink.live.path = path)
    (houtside : ∀ {w w'}, outside w w' → Hands path dir name w w')
    (hdeliveries : ∀ {w w'}, deliveries w w' → Hands path dir name w w') (start : kept c₀)
    (keeps : ∀ {c c' : Course}, Buffer dir name c → c.sink.live.path = path → kept c →
      Step outside deliveries c c' → kept c')
    (reached : Reached outside deliveries c₀ c) :
    Buffer dir name c ∧ kept c ∧ c.sink.live.path = path := by
  induction reached with
  | start => exact ⟨h, start, hpath⟩
  | step _ step ih =>
    obtain ⟨hbuffer, hkept, hlive⟩ := ih
    refine ⟨hbuffer.step ?_ ?_ step, keeps hbuffer hlive hkept step, step.same.path.trans hlive⟩
    · rw [hlive]
      exact houtside
    · rw [hlive]
      exact hdeliveries

end Course

end Outbox
