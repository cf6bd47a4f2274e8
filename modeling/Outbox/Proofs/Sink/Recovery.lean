import Outbox.Proofs.Sink.Custody
import Outbox.Proofs.Sink.Restart

/-!
# Recovery

A sink can be broken off anywhere. One that is started later with the same settings queues the
rolled files that are still there, and the records that were taken are in the live file, in those
files, or with the destination (`recovered`). This is so after any number of such runs.

A rolled file that a sink has found is like one that it has put away itself. So what holds of files
that were put away, in a course that has put away this one before, holds of a file that was found.
-/

set_option autoImplicit false

namespace Outbox

namespace Course

variable {outside deliveries : World → World → Prop} {c c' : Course}

/-! ### Courses with a past -/

/-- The same course, with something done before. -/
def behind (earlier : List Deed) (c : Course) : Course :=
  { c with deeds := earlier ++ c.deeds }

theorem behind_go {α : Type} (earlier : List Deed) (c : Course) (result : α × Sink × World)
    (before after : List Deed) :
    (c.go result before after).behind earlier = (c.behind earlier).go result before after := by
  simp only [behind, go, List.append_assoc]

theorem behind_goUpload (earlier : List Deed) (c : Course) (u : Upload)
    (result : Upload × Destination × World) (uploads : List Upload) :
    (c.goUpload u result uploads).behind earlier
      = (c.behind earlier).goUpload u result uploads := by
  simp only [behind, goUpload, List.append_assoc]

theorem behind_settle (earlier : List Deed) (c : Course) (outcome : Outcome)
    (rest : List Outcome) :
    (c.settle outcome rest).behind earlier = (c.behind earlier).settle outcome rest := by
  simp only [behind, settle, List.append_assoc]

/-- What a course does next does not depend on its past. -/
theorem Step.behind (step : Step outside deliveries c c') (earlier : List Deed) :
    Step outside deliveries (c.behind earlier) (c'.behind earlier) := by
  cases step with
  | output record =>
    rw [Course.output, behind_go]
    exact .output _ record
  | rollOver =>
    rw [Course.rollOver, behind_go]
    exact .rollOver _
  | tick =>
    rw [Course.tick, behind_go]
    exact .tick _
  | flag flushWaiting => exact .flag (c.behind earlier) flushWaiting
  | turn before u after among delivers =>
    rw [Course.turn, behind_goUpload]
    exact .turn (c.behind earlier) before u after among delivers
  | release before u after action among delivers =>
    rw [Course.release, behind_goUpload]
    exact .release (c.behind earlier) before u after action among delivers
  | handIn before u after result among ended =>
    exact .handIn (c.behind earlier) before u after result among ended
  | settle outcome rest first =>
    rw [behind_settle]
    exact .settle (c.behind earlier) outcome rest first
  | close => exact .close (c.behind earlier)
  | outside w acts => exact .outside (c.behind earlier) w acts

theorem Reached.behind (reached : Reached outside deliveries c c') (earlier : List Deed) :
    Reached outside deliveries (c.behind earlier) (c'.behind earlier) := by
  induction reached with
  | start => exact .start
  | step _ step ih => exact .step ih (step.behind earlier)

/-! ### Names of the files that were put away -/

theorem closed_of_rollDeeds {s : Sink} {w : World} {q : Path} {bytes : Bytes}
    (h : .closed q bytes ∈ rollDeeds s w) :
    ∃ other, Follows s.live.counters.name other ∧ q = s.live.path.withFileName other := by
  rw [rollDeeds, List.mem_append] at h
  rcases h with h | h
  · rw [closing] at h
    split at h
    · next target w' hmoved =>
      rw [List.mem_singleton, Deed.closed.injEq] at h
      rw [h.1]
      exact LiveFile.putAway_target hmoved
    · exact absurd h List.not_mem_nil
  · rw [rolling.eq_def] at h
    split at h
    · exact absurd (List.mem_singleton.mp h) (by simp)
    · exact absurd h List.not_mem_nil

theorem unclosing_taking (record : Bytes) (result : Except SinkError Unit) :
    Unclosing (taking record result) := by
  intro q bytes
  cases result <;> simp [taking]

theorem Step.closed {q : Path} {bytes : Bytes} (step : Step outside deliveries c c')
    (h : .closed q bytes ∈ c'.deeds) :
    .closed q bytes ∈ c.deeds ∨ ∃ other, Follows c.sink.live.counters.name other ∧
      q = c.sink.live.path.withFileName other := by
  have go : ∀ {α : Type} {result : α × Sink × World} {before after : List Deed},
      .closed q bytes ∈ (c.go result before after).deeds → Unclosing after →
      .closed q bytes ∈ c.deeds ∨ .closed q bytes ∈ before := by
    intro α result before after hmem unclosing
    rcases List.mem_append.mp hmem with hmem | hmem
    · exact .inl hmem
    · rcases List.mem_append.mp hmem with hmem | hmem
      · rcases List.mem_append.mp hmem with hmem | hmem
        · exact .inr hmem
        · exact absurd hmem (unclosing_started _ _ q bytes)
      · exact absurd hmem (unclosing q bytes)
  cases step with
  | output record =>
    refine (go h (unclosing_taking record _)).imp_right fun hmem => ?_
    split at hmem
    · exact closed_of_rollDeeds hmem
    · exact absurd hmem List.not_mem_nil
  | rollOver => exact (go h unclosing_nil).imp_right closed_of_rollDeeds
  | tick =>
    refine (go h unclosing_nil).imp_right fun hmem => ?_
    split at hmem
    · exact closed_of_rollDeeds hmem
    · exact absurd hmem List.not_mem_nil
  | flag => exact .inl h
  | turn before u after =>
    exact .inl ((List.mem_append.mp h).resolve_right (unclosing_delivery _ _ _ q bytes))
  | release before u after action =>
    exact .inl ((List.mem_append.mp h).resolve_right (unclosing_delivery _ _ _ q bytes))
  | handIn => exact .inl h
  | settle outcome rest =>
    exact .inl ((List.mem_append.mp h).resolve_right (by simp))
  | close => exact .inl h
  | outside => exact .inl h

theorem Reached.closed {q : Path} {bytes : Bytes} (reached : Reached outside deliveries c c')
    (h : .closed q bytes ∈ c'.deeds) :
    .closed q bytes ∈ c.deeds ∨ ∃ other, Follows c.sink.live.counters.name other ∧
      q = c.sink.live.path.withFileName other := by
  induction reached with
  | start => exact .inl h
  | step hreached step ih =>
    rcases step.closed h with h | hnew
    · exact ih h
    · rw [hreached.same.path, hreached.same.name] at hnew
      exact .inr hnew

/-- Every file that was put away stays, or is delivered as it is, along a whole course. -/
theorem Buffer.handed_reached {dir : Location} {name : Name} {path : Path} {c₀ : Course}
    (b : Buffer dir name c₀) (handed : Handed c₀.deeds) (hpath : c₀.sink.live.path = path)
    (houtside : ∀ {w w'}, outside w w' → Hands path dir name w w')
    (hdeliveries : ∀ {w w'}, deliveries w w' → Hands path dir name w w')
    (reached : Reached outside deliveries c₀ c) : Buffer dir name c ∧ Handed c.deeds := by
  obtain ⟨hbuffer, hhanded, -⟩ := b.along hpath houtside hdeliveries handed
    (fun buffer _ hhanded step => buffer.handed_step hhanded step) reached
  exact ⟨hbuffer, hhanded⟩

theorem Buffer.kept {dir : Location} {name other : Name} {q : Path} {bytes : Bytes}
    (b : Buffer dir name c) (handed : Handed c.deeds) (h : .closed q bytes ∈ c.deeds)
    (hname : q.fileName? = some other) :
    c.world.disk.fileAt? (dir ++ [other]) = some bytes ∨ .delivered q bytes ∈ c.deeds := by
  refine (handed q bytes h).imp_left fun hstanding => ?_
  obtain ⟨other', id, placed, hbytes, -⟩ := b.standing q bytes hstanding
  rw [placed.fileName?, Option.some.injEq] at hname
  rw [← hname, Disk.fileAt?_of_node placed.node, hbytes]

def delivered (c : Course) : List Bytes :=
  c.deeds.filterMap Deed.delivered?

theorem mem_delivered {q : Path} {bytes : Bytes} (h : .delivered q bytes ∈ c.deeds) :
    bytes ∈ c.delivered :=
  List.mem_filterMap.mpr ⟨_, h, rfl⟩

end Course

/-! ### Rolled files that were found -/

section Begun

variable {settings : Settings} {dir : Location} {s : Sink} {w : World} {c : Course}

theorem Begun.buffer (begun : Begun settings dir s w) :
    Course.Buffer dir settings.baseName { sink := s, world := w, deeds := [] } := by
  obtain ⟨b, w₀, hopen, sound, place, regular⟩ := begun
  exact Course.buffer_of_openLive hopen sound place regular

theorem Begun.path (begun : Begun settings dir s w) :
    s.live.path = settings.bufferDir.join settings.baseName ∧
      s.live.counters.name = settings.baseName ∧ s.uploads = [] := by
  obtain ⟨b, w₀, hopen, sound, place, regular⟩ := begun
  obtain ⟨-, -, -, -, hpath, hname, -, huploads, -⟩ :=
    Course.live_of_openLive hopen sound place regular
  exact ⟨hpath, hname, huploads⟩

theorem Begun.waits (begun : Begun settings dir s w) : s.waiting = s.pending := by
  obtain ⟨b, w₀, hopen, sound, place, regular⟩ := begun
  obtain ⟨-, -, -, -, -, -, -, huploads, houtcomes, -⟩ :=
    Course.live_of_openLive hopen sound place regular
  simp [Sink.waiting, huploads, houtcomes]

theorem Begun.live (begun : Begun settings dir s w) :
    w.disk.fileAt? (dir ++ [settings.baseName]) = some (s.live.bytes w.disk) := by
  obtain ⟨b, w₀, hopen, sound, place, regular⟩ := begun
  obtain ⟨id, -, hnode, -, -, -, hhandle, -⟩ :=
    Course.live_of_openLive hopen sound place regular
  rw [Disk.fileAt?_of_node hnode, LiveFile.bytes, hhandle]
  rfl

theorem Begun.packed (begun : Begun settings dir s w) :
    Course.Packed dir settings.baseName ((w.disk.fileAt? (dir ++ [settings.baseName])).getD [])
      { sink := s, world := w, deeds := [] } := by
  obtain ⟨b, w₀, hopen, sound, place, regular⟩ := begun
  obtain ⟨id, -, hnode, hcontent, -⟩ := Course.live_of_openLive hopen sound place regular
  rw [Disk.fileAt?_of_node hnode, Option.getD_some, hcontent]
  exact Course.packed_of_openLive hopen sound place regular

theorem Begun.waiting {q : Path} (begun : Begun settings dir s w) (hq : q ∈ s.waiting) :
    ∃ other, Plain other ∧ q = settings.bufferDir.join other := by
  rw [begun.waits] at hq
  obtain ⟨b, w₀, hopen, sound, place, regular⟩ := begun
  obtain ⟨id, site, -, -, -, -, -, -, -, hpending⟩ :=
    Course.live_of_openLive hopen sound place regular
  rcases hpending with hnone | hscan
  · rw [hnone] at hq
    exact absurd hq List.not_mem_nil
  · obtain ⟨-, loc, entries, -, hperm, hfound⟩ := Leftovers.scan_ok hscan
    rw [hfound] at hq
    obtain ⟨entry, hmem, rfl⟩ := List.mem_map.mp hq
    obtain ⟨hmem, hrolled⟩ := List.mem_filter.mp hmem
    obtain ⟨-, -, plain, -⟩ :=
      Leftovers.node_of_isRolled site.sound (hperm.mem_iff.mp hmem) hrolled
    exact ⟨entry.1, plain, rfl⟩

theorem Begun.buffer_behind {other : Name} {bytes : Bytes} (begun : Begun settings dir s w)
    (follows : Follows settings.baseName other)
    (file : w.disk.fileAt? (dir ++ [other]) = some bytes) :
    Course.Buffer dir settings.baseName
      { sink := s, world := w, deeds := [.closed (settings.bufferDir.join other) bytes] } := by
  have buffer := begun.buffer
  obtain ⟨hpath, -, huploads⟩ := begun.path
  have site := buffer.site
  have plain := follows.plain site.only.plain
  obtain ⟨id, hnode, hcontent⟩ := Disk.node_of_fileAt? file
  have placed : Placed s.live.path dir settings.baseName w.disk (settings.bufferDir.join other)
      other id :=
    ⟨hpath ▸ Path.beside_join settings.bufferDir site.only.plain plain, plain, follows.ne.symm,
      hnode⟩
  refine
    { site := site
      called := buffer.called
      entry := buffer.entry
      handle := buffer.handle
      placed := buffer.placed
      apart := buffer.apart
      reading := buffer.reading
      standing := fun q taken hstanding => ?_ }
  obtain ⟨before, after, heq, -⟩ := hstanding
  have heq : [Deed.closed (settings.bufferDir.join other) bytes]
      = before ++ .closed q taken :: after := heq
  have hmem : Deed.closed q taken ∈ [.closed (settings.bufferDir.join other) bytes] := by
    rw [heq]
    simp
  rw [List.mem_singleton, Deed.closed.injEq] at hmem
  obtain ⟨rfl, rfl⟩ := hmem
  refine ⟨other, id, placed, hcontent, fun u hu => ?_, fun q' hq' hname => ?_⟩
  · rw [huploads] at hu
    exact absurd hu List.not_mem_nil
  · obtain ⟨other', plain', rfl⟩ := begun.waiting hq'
    rw [(Path.endsIn_join settings.bufferDir plain'.no_slash).fileName? plain',
      Option.some.injEq] at hname
    rw [hname]

end Begun

/-! ### What is stored -/

/-- What has been put away is in a rolled file, or the destination has taken it. -/
def Safe (dir : Location) (base : Name) (delivered : List Bytes) (d : Disk) (bytes : Bytes) :
    Prop :=
  (∃ other, Follows base other ∧ d.fileAt? (dir ++ [other]) = some bytes) ∨ bytes ∈ delivered

/-- The records, in their order, have been put away in packs, and those that have not are in the
live file. -/
def Stored (dir : Location) (base : Name) (records delivered : List Bytes) (d : Disk) : Prop :=
  ∃ (packs : List (List Bytes)) (last : List Bytes), records = packs.flatten ++ last ∧
    (d.fileAt? (dir ++ [base])).getD [] = last.flatten ∧
      ∀ pack ∈ packs, Safe dir base delivered d pack.flatten

section Stored

variable {dir : Location} {base : Name} {records delivered : List Bytes} {d d' : Disk}

theorem stored_live (dir : Location) (base : Name) (d : Disk) :
    Stored dir base [(d.fileAt? (dir ++ [base])).getD []] [] d :=
  ⟨[], [(d.fileAt? (dir ++ [base])).getD []], rfl, by simp, by simp⟩

theorem Stored.of_files (h : Stored dir base records delivered d)
    (files : ∀ {other : Name} {bytes : Bytes}, Follows base other →
      d.fileAt? (dir ++ [other]) = some bytes → d'.fileAt? (dir ++ [other]) = some bytes)
    (live : (d'.fileAt? (dir ++ [base])).getD [] = (d.fileAt? (dir ++ [base])).getD []) :
    Stored dir base records delivered d' := by
  obtain ⟨packs, last, hrecords, hlive, hsafe⟩ := h
  refine ⟨packs, last, hrecords, live.trans hlive, fun pack hpack => ?_⟩
  exact (hsafe pack hpack).imp_left fun ⟨other, follows, hfile⟩ =>
    ⟨other, follows, files follows hfile⟩

theorem Stored.spared (h : Stored dir base records delivered d) (overt : Overt base)
    (spared : Spared dir base d d') : Stored dir base records delivered d' :=
  h.of_files (fun follows hfile =>
    (spared.files follows.ne.symm (follows.ne_check overt)).trans hfile) spared.live

theorem exists_repacked {first : Bytes} {records later : List Bytes} {packs : List (List Bytes)}
    {last : List Bytes} (hfirst : first = records.flatten)
    (h : first :: later = packs.flatten ++ last) :
    ∃ (packs' : List (List Bytes)) (last' : List Bytes), records ++ later = packs'.flatten ++ last' ∧
      packs'.map List.flatten = packs.map List.flatten ∧ last'.flatten = last.flatten := by
  induction packs with
  | nil =>
    obtain rfl : first :: later = last := h
    exact ⟨[], records ++ later, rfl, rfl, by simp [hfirst]⟩
  | cons pack packs ih =>
    cases pack with
    | nil =>
      obtain ⟨packs', last', hsame, hpacks, hlast⟩ := ih h
      exact ⟨[] :: packs', last', hsame, by simp [hpacks], hlast⟩
    | cons head pack =>
      simp only [List.flatten_cons, List.cons_append, List.cons.injEq] at h
      obtain ⟨rfl, rfl⟩ := h
      exact ⟨(records ++ pack) :: packs, last, by simp, by simp [hfirst], rfl⟩

end Stored

/-- What others do, and what deliveries do, while sinks with the same settings come and go. -/
def Settings.Aloof (settings : Settings) (b : Destination) (dir : Location) :
    World → World → Prop :=
  HandsOff (settings.ways b) (settings.bufferDir.join settings.baseName) dir settings.baseName

section Run

variable {settings : Settings} {b : Destination} {dir : Location} {s : Sink} {w : World}
  {c : Course} {records delivered : List Bytes}

theorem Safe.run {bytes : Bytes} (safe : Safe dir settings.baseName delivered w.disk bytes)
    (begun : Begun settings dir s w)
    (reached : Course.Reached (settings.Aloof b dir) (settings.Aloof b dir)
      { sink := s, world := w, deeds := [] } c) :
    Safe dir settings.baseName (delivered ++ c.delivered) c.world.disk bytes := by
  rcases safe with ⟨other, follows, file⟩ | hdelivered
  · obtain ⟨hpath, -⟩ := begun.path
    have plain := follows.plain begun.buffer.site.only.plain
    have hname := (Path.endsIn_join settings.bufferDir plain.no_slash).fileName? plain
    -- the file that was found is the first one that was put away
    have earlier : Course.Handed [.closed (settings.bufferDir.join other) bytes] := by
      intro q taken hmem
      rw [List.mem_singleton] at hmem
      rw [← hmem]
      exact .inl ⟨[], [], rfl, by simp⟩
    obtain ⟨buffer, handed⟩ :=
      (begun.buffer_behind follows file).handed_reached earlier hpath And.left And.left
        (reached.behind [.closed (settings.bufferDir.join other) bytes])
    rcases buffer.kept handed List.mem_cons_self hname with hfile | hdelivered
    · exact .inl ⟨other, follows, hfile⟩
    · have hmem := (List.mem_cons.mp hdelivered).resolve_left (by simp)
      exact .inr (List.mem_append_right _ (Course.mem_delivered hmem))
  · exact .inr (List.mem_append_left _ hdelivered)

theorem Begun.packed_reached (begun : Begun settings dir s w)
    (reached : Course.Reached (settings.Aloof b dir) (settings.Aloof b dir)
      { sink := s, world := w, deeds := [] } c) :
    Course.Packed dir settings.baseName ((w.disk.fileAt? (dir ++ [settings.baseName])).getD [])
      c := by
  obtain ⟨hpath, -⟩ := begun.path
  obtain ⟨-, hpacked, -⟩ := begun.buffer.along hpath And.left And.left begun.packed
    (fun buffer hlive packed step =>
      packed.step buffer (fun aside => hlive.symm ▸ aside.1) (fun aside => hlive.symm ▸ aside.1)
        step) reached
  exact hpacked

/-- A run goes on with the packs of those before, and with the last one, which is in the live
file. -/
theorem Stored.run (stored : Stored dir settings.baseName records delivered w.disk)
    (begun : Begun settings dir s w)
    (reached : Course.Reached (settings.Aloof b dir) (settings.Aloof b dir)
      { sink := s, world := w, deeds := [] } c) :
    Stored dir settings.baseName (records ++ c.accepted) (delivered ++ c.delivered)
      c.world.disk := by
  obtain ⟨packs, last, hrecords, hlive, hsafe⟩ := stored
  obtain ⟨hpath, hname, -⟩ := begun.path
  obtain ⟨newer, rest, haccepted, hclosed, hrest⟩ := begun.packed_reached reached
  obtain ⟨packs', last', hsame, hpacks, hlast⟩ := exists_repacked hlive haccepted
  have handed : Course.Handed ([] : List Deed) := fun q bytes hmem => absurd hmem List.not_mem_nil
  obtain ⟨buffer, handed⟩ :=
    begun.buffer.handed_reached handed hpath And.left And.left reached
  refine ⟨packs ++ packs', last', ?_, hrest.trans hlast.symm, fun pack hpack => ?_⟩
  · rw [hrecords, List.append_assoc, hsame, List.flatten_append, List.append_assoc]
  · rcases List.mem_append.mp hpack with hpack | hpack
    · exact (hsafe pack hpack).run begun reached
    · have hbytes : pack.flatten ∈ c.closed := by
        rw [hclosed, ← hpacks]
        exact List.mem_map_of_mem hpack
      obtain ⟨deed, hdeed, hbytes⟩ := List.mem_filterMap.mp hbytes
      cases deed with
      | closed q bytes =>
        obtain rfl : bytes = pack.flatten := Option.some.inj hbytes
        obtain ⟨other, follows, hq⟩ := (reached.closed hdeed).resolve_left List.not_mem_nil
        have follows : Follows settings.baseName other := hname ▸ follows
        have only := begun.buffer.site.only
        have plain := follows.plain only.plain
        have hother : q.fileName? = some other := by
          rw [hq]
          exact (Path.beside_withFileName only.endsIn only.plain plain).endsIn.fileName? plain
        rcases buffer.kept handed hdeed hother with hfile | hdelivered
        · exact .inl ⟨other, follows, hfile⟩
        · exact .inr (List.mem_append_right _ (Course.mem_delivered hdelivered))
      | _ => exact absurd hbytes (by simp [Deed.closed?])

end Run

/-! ### Runs one after another -/

/-- How a world has come about in which sinks with the same settings have been started and broken
off, one after another: the records of all of them, behind what the live file held at first, and
what their destinations have taken. -/
inductive History (settings : Settings) (b : Destination) (dir : Location) :
    List Bytes → List Bytes → World → Prop where
  /-- The first sink finds no files in its directory but those of a sink. -/
  | first {w₀ w : World} {s : Sink} {c : Course} (sound : w₀.disk.Sound)
      (grounded : b.Grounded w₀.disk)
      (start : Sink.start settings (some b) w₀ = (.ok s, w))
      (leads : w.disk.dirOf? settings.bufferDir = some dir)
      (clean : Clean dir settings.baseName w.disk)
      (reached : Course.Reached (settings.Aloof b dir) (settings.Aloof b dir)
        { sink := s, world := w, deeds := [] } c) :
      History settings b dir
        ((w.disk.fileAt? (dir ++ [settings.baseName])).getD [] :: c.accepted) c.delivered c.world
  | again {records delivered : List Bytes} {w₀ w : World} {s : Sink} {c : Course}
      (before : History settings b dir records delivered w₀)
      (start : Sink.start settings (some b) w₀ = (.ok s, w))
      (reached : Course.Reached (settings.Aloof b dir) (settings.Aloof b dir)
        { sink := s, world := w, deeds := [] } c) :
      History settings b dir (records ++ c.accepted) (delivered ++ c.delivered) c.world
  | stopped {records delivered : List Bytes} {w₀ : World}
      (before : History settings b dir records delivered w₀) :
      History settings b dir records delivered (Sink.start settings (some b) w₀).2
  | meanwhile {records delivered : List Bytes} {w₀ w : World}
      (before : History settings b dir records delivered w₀)
      (aloof : settings.Aloof b dir w₀ w) : History settings b dir records delivered w

section History

variable {settings : Settings} {b : Destination} {dir : Location} {s : Sink} {w₀ w : World}
  {c : Course} {records delivered : List Bytes}

theorem Left.reached (left : Left settings b dir w.disk) (begun : Begun settings dir s w)
    (reached : Course.Reached (settings.Aloof b dir) (settings.Aloof b dir)
      { sink := s, world := w, deeds := [] } c) : Left settings b dir c.world.disk := by
  obtain ⟨hpath, -⟩ := begun.path
  obtain ⟨buffer, clean, upholds⟩ := begun.buffer.clean_reached left.clean hpath reached
  exact left.change buffer.site.sound upholds clean

theorem Left.aloof (left : Left settings b dir w.disk) (named : settings.Named)
    (faults : List (Option OsError)) :
    settings.Aloof b dir w { w with disk := { w.disk with faults } } := by
  have only := Disk.only_join left.leads named.overt.plain
  have site : Site w.disk (settings.bufferDir.join settings.baseName) dir settings.baseName :=
    ⟨left.sound, named.live, only⟩
  exact ⟨site.untouched faults, (Disk.grows_faults w.disk faults).keeps.carries.upholds⟩

/-- A sink can be broken off in the midst of a step. An operation that fails leaves the disk as it
was, so this is a step in which all operations fail from there on. -/
theorem Left.broken_off {c₀ c' : Course} (left : Left settings b dir c.world.disk)
    (named : settings.Named)
    (reached : Course.Reached (settings.Aloof b dir) (settings.Aloof b dir) c₀ c)
    (faults : List (Option OsError))
    (step : Course.Step (settings.Aloof b dir) (settings.Aloof b dir)
      { c with world := { c.world with disk := { c.world.disk with faults } } } c') :
    Course.Reached (settings.Aloof b dir) (settings.Aloof b dir) c₀ c' :=
  .step (.step reached (.outside c _ (left.aloof named faults))) step

/-- After any number of runs a sink can start again, and what was stored is stored. -/
theorem History.left (history : History settings b dir records delivered w)
    (entry : settings.bufferDir.chars ≠ []) (overt : Overt settings.baseName) :
    settings.Named ∧ Left settings b dir w.disk ∧
      Stored dir settings.baseName records delivered w.disk := by
  induction history with
  | first sound grounded start leads clean reached =>
    obtain ⟨named, left⟩ := left_of_start start sound entry overt grounded leads clean
    have begun := begun_of_start start sound overt.plain leads clean
    exact ⟨named, left.reached begun reached, (stored_live _ _ _).run begun reached⟩
  | again before start reached ih =>
    obtain ⟨named, left, stored⟩ := ih
    have spared := left.start_spared named
    rw [start] at spared
    have left' := left.spared spared
    have begun := begun_of_start start left.sound overt.plain left'.leads left'.clean
    exact ⟨named, left'.reached begun reached, (stored.spared overt spared).run begun reached⟩
  | stopped before ih =>
    obtain ⟨named, left, stored⟩ := ih
    have spared := left.start_spared named
    exact ⟨named, left.spared spared, stored.spared overt spared⟩
  | meanwhile before aloof ih =>
    obtain ⟨named, left, stored⟩ := ih
    obtain ⟨hands, upholds⟩ := aloof
    refine ⟨named, left.change hands.sound upholds (left.clean.of_entries hands.entries), ?_⟩
    refine stored.of_files (fun {other} bytes follows hfile => ?_) ?_
    · have same := Disk.fileAt?_congr (hands.entries other) (hands.contents follows.ne.symm)
      exact same.trans hfile
    · rw [Disk.fileAt?_congr (hands.entries settings.baseName) hands.live]

/-- When a sink has been broken off and is started again, the rolled files that are still in its
directory wait, each once and in the order in which they are listed, and the live file is the one
that was left. Every record that was taken in any run before is in the live file, in a file that
waits, or was taken by the destination. -/
theorem recovered (history : History settings b dir records delivered w)
    (entry : settings.bufferDir.chars ≠ []) (named : Config.isPlainName settings.baseName = true)
    (calm : w.disk.faults = []) (readable : w.wall.isReadable = true) :
    ∃ s w', Sink.start settings (some b) w = (.ok s, w') ∧
      s.pending = settings.rolledFiles dir w'.disk ∧ (s.pending.map Path.fileName?).Nodup ∧
      (∀ q, q ∈ s.pending ↔ ∃ other bytes, q = settings.bufferDir.join other ∧
        other ≠ settings.baseName ∧ other ≠ Sink.writeCheckName ∧
        w.disk.fileAt? (dir ++ [other]) = some bytes) ∧
      (∀ q ∈ s.pending, q.fileName? ≠ some settings.baseName) ∧
      s.live.bytes w'.disk = (w.disk.fileAt? (dir ++ [settings.baseName])).getD [] ∧
      s.fileSize = (s.live.bytes w'.disk).length ∧
      ∃ (packs : List (List Bytes)) (last : List Bytes), records = packs.flatten ++ last ∧
        s.live.bytes w'.disk = last.flatten ∧
        ∀ pack ∈ packs, pack.flatten ∈ delivered ∨ ∃ other,
          settings.bufferDir.join other ∈ s.pending ∧
          w'.disk.fileAt? (dir ++ [other]) = some pack.flatten := by
  have overt := Config.overt_of_isPlainName named
  obtain ⟨named, left, stored⟩ := history.left entry overt
  have spared := left.start_spared named
  obtain ⟨s, w', start, hpending, hsize⟩ := left.start_calm named calm readable
  rw [start] at spared
  have left' := left.spared spared
  have begun := begun_of_start start left.sound overt.plain left'.leads left'.clean
  have hlive := begun.live
  have hbytes : s.live.bytes w'.disk
      = (w.disk.fileAt? (dir ++ [settings.baseName])).getD [] := by
    rw [← spared.live, begun.live, Option.getD_some]
  have hmem : ∀ q, q ∈ s.pending ↔ ∃ other bytes, q = settings.bufferDir.join other ∧
      other ≠ settings.baseName ∧ other ≠ Sink.writeCheckName ∧
      w'.disk.fileAt? (dir ++ [other]) = some bytes := by
    intro q
    rw [hpending]
    exact left'.clean.mem_rolledFiles left'.sound overt
  obtain ⟨packs, last, hrecords, hlast, hsafe⟩ := stored.spared overt spared
  refine ⟨s, w', start, hpending, ?_, fun q => ?_, fun q hq => ?_, hbytes, ?_, packs, last,
    hrecords, ?_, fun pack hpack => ?_⟩
  · rw [← begun.waits]
    exact begun.buffer.apart
  · rw [hmem]
    refine exists_congr fun other => exists_congr fun bytes => and_congr_right fun _ =>
      and_congr_right fun hne => and_congr_right fun hcheck => ?_
    rw [spared.files hne hcheck]
  · rw [← begun.waits] at hq
    obtain ⟨other, id, placed⟩ := begun.buffer.placed q hq
    rw [placed.fileName?, ne_eq, Option.some.injEq]
    exact placed.ne
  · rw [hbytes, hsize]
  · rw [← hlast, begun.live, Option.getD_some]
  · rcases hsafe pack hpack with ⟨other, follows, hfile⟩ | hdelivered
    · refine .inr ⟨other, (hmem _).mpr ⟨other, _, rfl, follows.ne.symm, follows.ne_check overt,
        hfile⟩, hfile⟩
    · exact .inl hdelivered

end History

/-! ### A crash between two operations -/

def holdsLiveOnly (dir : Location) (base : Name) (d : Disk) : Bool :=
  d.nodes.all fun entry =>
    entry.1.dropLast ≠ dir || (entry.1.getLast? = some base &&
      match entry.2 with
      | .file _ => true
      | _ => false)

theorem clean_of_holdsLiveOnly {dir : Location} {base : Name} {d : Disk}
    (h : holdsLiveOnly dir base d = true) : Clean dir base d := by
  have live : ∀ {other : Name} {node : Node}, d.node? (dir ++ [other]) = some node →
      other = base ∧ ∃ id, node = .file id := by
    intro other node hnode
    have hmem := Disk.mem_of_lookup (d.node?_entry dir other ▸ hnode)
    have hentry := List.all_eq_true.mp h _ hmem
    simp only [List.dropLast_concat, List.getLast?_concat, ne_eq, not_true_eq_false, decide_false,
      Bool.false_or, Bool.and_eq_true, decide_eq_true_eq, Option.some.injEq] at hentry
    refine ⟨hentry.1, ?_⟩
    cases node with
    | file id => exact ⟨id, rfl⟩
    | _ => exact absurd hentry.2 (by simp)
  refine ⟨fun hnode => .inl (live hnode).1, fun hnode => (live hnode).2,
    fun hnode => (live hnode).2, fun follows target hnode => ?_⟩
  obtain ⟨-, id, hid⟩ := live hnode
  exact absurd hid (by simp)

def World.listingNewest : World :=
  { World.fresh ['w'] with disk := { Disk.fresh ['w'] with listing := .newestFirst } }

/-- A sink that has taken a record, in the midst of a rollover: the live file has got its new name,
and no other one has been opened. -/
def renamedOnly (s : Sink) (w : World) : Course :=
  let c := (Course.mk s w []).output [97]
  Course.rollOver { c with world := { c.world with
    disk := { c.world.disk with faults := [none, none, some .noSpace] } } }

/-- A sink is broken off there. The next one finds the rolled file, and begins with an empty live
file. -/
theorem recovered_after_rename :
    ∃ s w s' w', Sink.start { Settings.default with connection := "buf:".toList }
        (some (.scripted (.ofScript [] none))) .listingNewest = (.ok s, w) ∧
      (renamedOnly s w).accepted = [[97]] ∧
      Sink.start { Settings.default with connection := "buf:".toList }
        (some (.scripted (.ofScript [] none))) (renamedOnly s w).world = (.ok s', w') ∧
      s'.pending.length = 1 ∧ s'.live.bytes w'.disk = [] ∧ s'.fileSize = 0 := by
  let settings : Settings := { Settings.default with connection := "buf:".toList }
  let b : Destination := .scripted (.ofScript [] none)
  have hcheck : Sink.passes (Sink.start settings (some b) .listingNewest) (fun s w =>
      let crashed := (renamedOnly s w).world
      decide (w.disk.dirOf? settings.bufferDir = some [['w'], "buf".toList]) &&
        holdsLiveOnly [['w'], "buf".toList] settings.baseName w.disk &&
        decide ((renamedOnly s w).accepted = [[97]]) && decide (crashed.disk.faults = []) &&
        crashed.wall.isReadable &&
        decide (crashed.disk.fileAt? ([['w'], "buf".toList] ++ [settings.baseName]) = none) &&
        Sink.passes (Sink.start settings (some b) crashed) fun s' _ =>
          decide (s'.pending.length = 1)) = true := by
    decide +kernel
  obtain ⟨s, w, start, hcheck⟩ := Sink.exists_of_passes hcheck
  simp only [Bool.and_eq_true, decide_eq_true_eq] at hcheck
  obtain ⟨⟨⟨⟨⟨⟨leads, hlive⟩, haccepted⟩, calm⟩, readable⟩, hnone⟩, hagain⟩ := hcheck
  have sound : World.listingNewest.disk.Sound := World.fresh_sound.withListing .newestFirst
  have clean := clean_of_holdsLiveOnly hlive
  have grounded := Destination.grounded_ofScript [] World.listingNewest.disk
  have overt : Overt settings.baseName := Config.overt_of_isPlainName (by decide)
  obtain ⟨named, left⟩ := left_of_start start sound (by decide) overt grounded leads clean
  have begun := begun_of_start start sound overt.plain leads clean
  have output : Course.Reached (settings.Aloof b [['w'], "buf".toList])
      (settings.Aloof b [['w'], "buf".toList]) { sink := s, world := w, deeds := [] }
      ((Course.mk s w []).output [97]) := .step .start (.output _ [97])
  have reached : Course.Reached (settings.Aloof b [['w'], "buf".toList])
      (settings.Aloof b [['w'], "buf".toList]) { sink := s, world := w, deeds := [] }
      (renamedOnly s w) :=
    (left.reached begun output).broken_off named output [none, none, some .noSpace] (.rollOver _)
  have history := History.first sound grounded start leads clean reached
  obtain ⟨s', w', start', -, -, -, -, hbytes, hsize, -⟩ :=
    recovered history (by decide) (by decide) calm readable
  have hempty : s'.live.bytes w'.disk = [] := by
    rw [hbytes, hnone]
    rfl
  obtain ⟨s'', w'', hsame, hcount⟩ := Sink.exists_of_passes hagain
  refine ⟨s, w, s', w', start, haccepted, start', ?_, hempty, ?_⟩
  · have heq := start'.symm.trans hsame
    simp only [Prod.mk.injEq, Except.ok.injEq] at heq
    rw [heq.1]
    exact of_decide_eq_true hcount
  · rw [hsize, hempty]
    rfl

end Outbox
