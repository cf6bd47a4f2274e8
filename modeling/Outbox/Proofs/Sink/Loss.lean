import Outbox.Proofs.Sink.Accounts
import Outbox.Proofs.Sink.Custody

/-!
# Records that are lost

A rollover takes a name that is free in the buffer directory at that moment. When the file of that
name has been uploaded it is gone from there, and the name is free again, while the destination
still has a file of that name. So two rollovers within one second can give two files one name, and
the second upload takes away what the first one had stored (`record_lost_within_second`). Apart from
that nothing is lost: what is stored is kept exactly if no two files of different contents were
delivered to one place, and then every record is in the live file, in a rolled file or at the
destination (`stored_kept_iff`).
-/

set_option autoImplicit false

namespace Outbox

/-- What the deliveries of a sink rely on when it begins: the directory of an archive is there, and
nothing stands in the way of unfinished copies. -/
def Destination.Ready (b : Destination) (dest : Location) (pending : List Path) (d : Disk) : Prop :=
  match b with
  | .archive a => d.dirOf? a.directory = some dest ∧
    (∀ other, Plain other → d.Linkless (dest ++ [Archive.unfinished other])) ∧
    ∀ q ∈ pending, ∀ other, q.fileName? ≠ some (Archive.unfinished other)
  | .store _ => True
  | .scripted _ => False

namespace Course

variable {dir dest : Location} {name : Name} {c c' : Course}

/-- What was stored is at the destination as it was stored. -/
def Kept (dest : Location) (c : Course) : Prop :=
  ∀ q bytes, .delivered q bytes ∈ c.deeds → ∃ place,
    c.sink.destination.place? q = some place ∧
      c.sink.destination.Holds dest c.world.disk place bytes

/-- No two files of different contents were delivered to one place. -/
def Agree (c : Course) : Prop :=
  ∀ q bytes q' bytes', .delivered q bytes ∈ c.deeds → .delivered q' bytes' ∈ c.deeds →
    c.sink.destination.place? q = c.sink.destination.place? q' → bytes = bytes'

theorem Custody.kept_iff {b : Destination} (h : Custody b dest c) : c.Kept dest ↔ c.Agree := by
  constructor
  · intro kept q bytes q' bytes' hmem hmem' hsame
    obtain ⟨place, hplace, hheld⟩ := kept q bytes hmem
    obtain ⟨place', hplace', hheld'⟩ := kept q' bytes' hmem'
    rw [hplace, hplace', Option.some.injEq] at hsame
    subst hsame
    exact hheld.unique hheld'
  · intro agree q bytes hmem
    obtain ⟨q', bytes', place, hmem', hplace, hplace', hheld⟩ := h.stocked q bytes hmem
    rw [← h.like.place?] at hplace hplace'
    obtain rfl := agree q bytes q' bytes' hmem hmem' (hplace.trans hplace'.symm)
    exact ⟨place, hplace, hheld⟩

theorem Accounts.mem_of_upload {queued : List Path} {u : Upload} (h : Accounts queued c)
    (hu : u ∈ c.sink.uploads) : u.path ∈ queued ++ c.rolled := by
  rw [← List.count_pos_iff, h.files, underWay, List.count_append]
  have hcount : 0 < (c.sink.uploads.map Upload.path).count u.path :=
    List.count_pos_iff.mpr (List.mem_map_of_mem hu)
  omega

theorem infix_flatten {record : Bytes} {pack : List Bytes} (h : record ∈ pack) :
    record <:+: pack.flatten := by
  obtain ⟨front, rest, rfl⟩ := List.append_of_mem h
  exact ⟨front.flatten, rest.flatten, by simp⟩

section Whole

variable {s : Sink} {w : World}

/-- No file of a sink has the name of an unfinished copy, if none that it has found has one. -/
theorem tidy_of_reached {outside deliveries : World → World → Prop}
    (accounts : Accounts s.pending { sink := s, world := w, deeds := [] })
    (found : ∀ q ∈ s.pending, ∀ other, q.fileName? ≠ some (Archive.unfinished other))
    (endsIn : s.live.path.EndsIn s.live.counters.name) (plain : Plain s.live.counters.name)
    (reached : Reached outside deliveries { sink := s, world := w, deeds := [] } c) :
    ∀ u ∈ c.sink.uploads, ∀ other, u.path.fileName? ≠ some (Archive.unfinished other) := by
  intro u hu other
  rcases List.mem_append.mp ((accounts.reached reached).mem_of_upload hu) with hq | hq
  · exact found u.path hq other
  · rcases reached.rolled hq with hq | ⟨rolled, follows, hpath⟩
    · exact absurd hq List.not_mem_nil
    · have hplain : Plain rolled := follows.plain plain
      have hname : u.path.fileName? = some rolled := by
        rw [hpath]
        exact (Path.beside_withFileName endsIn plain hplain).endsIn.fileName? hplain
      rw [hname, ne_eq, Option.some.injEq]
      exact follows.ne_unfinished other

end Whole

/-- All that holds of a sink whose files are in custody. -/
structure Keeping (b : Destination) (dir dest : Location) (name : Name) (found : Bytes)
    (c : Course) : Prop where
  buffer : Buffer dir name c
  packed : Packed dir name found c
  handed : Handed c.deeds
  custody : Custody b dest c

section Keeping

variable {b : Destination} {found : Bytes}

theorem Keeping.step (h : Keeping b dir dest name found c) (apart : dest ≠ dir)
    (tidy : ∀ a, b = .archive a → ∀ u ∈ c.sink.uploads, ∀ other,
      u.path.fileName? ≠ some (Archive.unfinished other))
    (step : Step (Others b c.sink.live.path dir dest name)
      (Delivers b c.sink.live.path dir dest name) c c') :
    Keeping b dir dest name found c' := by
  obtain ⟨buffer, packed, handed, custody⟩ := h
  have tidy' : ∀ a, c.sink.destination = .archive a → ∀ u ∈ c.sink.uploads, ∀ other,
      u.path.fileName? ≠ some (Archive.unfinished other) := by
    intro a harchive
    obtain ⟨a₀, hb⟩ := (harchive ▸ custody.like).of_archive
    exact tidy a₀ hb
  have handed' := buffer.handed_step handed step
  obtain ⟨step, custody'⟩ := custody.step buffer apart tidy' step
  exact ⟨buffer.step id id step, packed.step buffer id id step, handed', custody'⟩

theorem Keeping.reached {path : Path} {c₀ : Course} (h : Keeping b dir dest name found c₀)
    (apart : dest ≠ dir) (hpath : c₀.sink.live.path = path)
    (tidy : ∀ c, Reached (Others b path dir dest name) (Delivers b path dir dest name) c₀ c →
      ∀ a, b = .archive a → ∀ u ∈ c.sink.uploads, ∀ other,
        u.path.fileName? ≠ some (Archive.unfinished other))
    (reached : Reached (Others b path dir dest name) (Delivers b path dir dest name) c₀ c) :
    Keeping b dir dest name found c := by
  induction reached with
  | start => exact h
  | @step c' c'' before step ih =>
    have hlive : c'.sink.live.path = path := before.same.path.trans hpath
    rw [← hlive] at step
    exact ih.step apart (tidy c' before) step

theorem Packed.closed_of_mem {record : Bytes} (h : Packed dir name found c)
    (hrecord : record ∈ c.accepted) : record <:+: c.liveBytes dir name ∨
      ∃ q bytes, .closed q bytes ∈ c.deeds ∧ record <:+: bytes := by
  obtain ⟨packs, last, haccepted, hclosed, hlive⟩ := h
  have hmem : record ∈ packs.flatten ++ last := haccepted ▸ List.mem_cons_of_mem _ hrecord
  rcases List.mem_append.mp hmem with hmem | hmem
  · obtain ⟨pack, hpack, hmem⟩ := List.mem_flatten.mp hmem
    have hbytes : pack.flatten ∈ c.closed := hclosed ▸ List.mem_map_of_mem hpack
    obtain ⟨deed, hdeed, hclosed⟩ := List.mem_filterMap.mp hbytes
    cases deed with
    | closed q bytes =>
      obtain rfl : bytes = pack.flatten := Option.some.inj hclosed
      exact .inr ⟨q, _, hdeed, infix_flatten hmem⟩
    | _ => exact absurd hclosed (by simp [Deed.closed?])
  · rw [hlive]
    exact .inl (infix_flatten hmem)

/-- Where a record can be: in the live file, in another file of the buffer directory or at the
destination. -/
def Present (dir dest : Location) (name : Name) (c : Course) (record : Bytes) : Prop :=
  record <:+: c.liveBytes dir name ∨
    (∃ other bytes, other ≠ name ∧ c.world.disk.fileAt? (dir ++ [other]) = some bytes ∧
      record <:+: bytes) ∨
    ∃ place bytes, c.sink.destination.Holds dest c.world.disk place bytes ∧ record <:+: bytes

theorem Keeping.present {record : Bytes} (h : Keeping b dir dest name found c)
    (kept : c.Kept dest) (hrecord : record ∈ c.accepted) : c.Present dir dest name record := by
  rcases h.packed.closed_of_mem hrecord with hlive | ⟨q, bytes, hclosed, hpart⟩
  · exact .inl hlive
  · rcases h.handed q bytes hclosed with hstanding | hdelivered
    · obtain ⟨other, id, hplaced, hbytes, -⟩ := h.buffer.standing q bytes hstanding
      refine .inr (.inl ⟨other, bytes, hplaced.ne, ?_, hpart⟩)
      rw [Disk.fileAt?_of_node hplaced.node, hbytes]
    · obtain ⟨place, -, hheld⟩ := kept q bytes hdelivered
      exact .inr (.inr ⟨place, bytes, hheld, hpart⟩)

end Keeping

section Opened

variable {settings : Settings} {bufferDir : Path} {destination : Destination} {s : Sink}
  {w₀ w : World}

theorem custody_of_openLive
    (h : Sink.openLive settings bufferDir destination w₀ = (.ok s, w)) (uploads : s.uploads = [])
    (ready : destination.Ready dest s.pending w.disk) :
    Custody destination dest { sink := s, world := w, deeds := [] } := by
  have goesTo : s.destination = destination := (Sink.opened_of_openLive h).goesTo
  refine ⟨?_, fun a harchive => ?_, fun q bytes hmem => absurd hmem List.not_mem_nil⟩
  · dsimp only
    rw [goesTo]
    cases destination with
    | archive a => exact Eq.refl a.directory
    | store s => exact ⟨rfl, rfl, .refl _⟩
    | scripted s => exact ready.elim
  · obtain rfl : destination = .archive a := goesTo.symm.trans harchive
    obtain ⟨hdir, linkless, -⟩ := ready
    refine ⟨Archive.leads_of_dirOf? hdir, linkless, fun u hu => ?_,
      fun q bytes hmem => absurd hmem List.not_mem_nil⟩
    rw [uploads] at hu
    exact absurd hu List.not_mem_nil

/-- What was stored at the destination is kept exactly if no two files of different contents were
delivered to one place. If so, every record that was taken is in the live file, in a rolled file or
at the destination. -/
theorem stored_kept_iff (h : Sink.openLive settings bufferDir destination w₀ = (.ok s, w))
    (sound : w₀.disk.Sound)
    (place : w₀.disk.goal (bufferDir.join settings.baseName) = .ok (.entry dir name, false))
    (regular : ∀ node, w₀.disk.node? (dir ++ [name]) = some node → ∃ id, node = .file id)
    (ready : destination.Ready dest s.pending w.disk) (apart : dest ≠ dir)
    (reached : Reached (Others destination s.live.path dir dest name)
      (Delivers destination s.live.path dir dest name) { sink := s, world := w, deeds := [] } c) :
    (c.Kept dest ↔ c.Agree) ∧
      (c.Agree → ∀ record ∈ c.accepted, c.Present dir dest name record) := by
  obtain ⟨id, site, -, -, hpath, hname, -, huploads, -⟩ := live_of_openLive h sound place regular
  have hlive : s.live.path.EndsIn s.live.counters.name := by
    rw [hpath, hname]
    exact site.only.endsIn
  have begun : Keeping destination dir dest name ((w₀.disk.fileAt? (dir ++ [name])).getD [])
      { sink := s, world := w, deeds := [] } :=
    { buffer := buffer_of_openLive h sound place regular
      packed := packed_of_openLive h sound place regular
      handed := fun q bytes hmem => absurd hmem List.not_mem_nil
      custody := custody_of_openLive h huploads ready }
  have keeping := begun.reached apart rfl ?_ reached
  · have hiff := keeping.custody.kept_iff
    exact ⟨hiff, fun agree record hrecord => keeping.present (hiff.mpr agree) hrecord⟩
  · rintro c reached a rfl
    obtain ⟨-, -, found⟩ := ready
    exact tidy_of_reached (accounts_of_openLive h) found hlive (hname ▸ site.only.plain) reached

def turnAt (i : Nat) (c : Course) : Course :=
  match c.sink.uploads.drop i with
  | [] => c
  | u :: after => c.turn (c.sink.uploads.take i) u after

def turnsAt (i : Nat) : Nat → Course → Course
  | 0, c => c
  | n + 1, c => turnsAt i n (c.turnAt i)

theorem Reached.turnAt {outside deliveries : World → World → Prop}
    (reached : Reached outside deliveries c c') (any : ∀ w w', deliveries w w') (i : Nat) :
    Reached outside deliveries c (c'.turnAt i) := by
  rw [Course.turnAt]
  split
  · exact reached
  · next u after hdrop =>
    refine .step reached (.turn c' _ u after ?_ fun _ => any _ _)
    rw [← hdrop, List.take_append_drop]

theorem Reached.turnsAt {outside deliveries : World → World → Prop}
    (reached : Reached outside deliveries c c') (any : ∀ w w', deliveries w w') (i n : Nat) :
    Reached outside deliveries c (c'.turnsAt i n) := by
  induction n generalizing c' with
  | zero => exact reached
  | succ n ih => exact ih (reached.turnAt any i)

/-- A sink that has taken a record, rolled it over and uploaded it. -/
def uploadedOnce (s : Sink) (w : World) : Course :=
  ((Course.mk s w []).output [97]).rollOver.turnsAt 0 Upload.maxTurns

def uploadedTwice (s : Sink) (w : World) : Course :=
  ((uploadedOnce s w).output [98]).rollOver.turnsAt 1 Upload.maxTurns

/-- A sink takes a record, rolls it over and uploads it to an archive beside its directory. -/
theorem stored_kept_after_upload :
    ∃ s w, Sink.openLive .default ⟨['.']⟩ (.archive { Archive.unset with directory := ⟨['/', 'a']⟩ })
        { World.fresh ['w'] with disk := (Disk.fresh ['w']).put ([] ++ [['a']]) .dir }
          = (.ok s, w) ∧
      ∀ c, c = ((Course.mk s w []).output [97]).rollOver.turnsAt 0 Upload.maxTurns →
        c.Kept [['a']] ∧ c.Present [['w']] [['a']] Settings.default.baseName [97] := by
  let a : Archive := { Archive.unset with directory := ⟨['/', 'a']⟩ }
  let w₀ : World :=
    { World.fresh ['w'] with disk := (Disk.fresh ['w']).put ([] ++ [['a']]) .dir }
  have hcheck : Sink.passes (Sink.openLive .default ⟨['.']⟩ (.archive a) w₀) (fun s w =>
      decide (w.disk.dirOf? ⟨['/', 'a']⟩ = some [['a']]) && !w.disk.hasLink &&
        s.pending.isEmpty && decide ([97] ∈ (uploadedOnce s w).accepted) &&
        ((uploadedOnce s w).deeds.filterMap Deed.delivered?).all (· = [97])) = true := by
    decide +kernel
  have start : Plain ['w'] := ⟨by decide, by decide, by decide, by decide⟩
  have plain : Plain ['a'] := ⟨by decide, by decide, by decide, by decide⟩
  have sound : w₀.disk.Sound :=
    (Disk.fresh_sound start (by decide)).putDir (by decide) plain (by decide)
  have place : w₀.disk.goal (Path.join ⟨['.']⟩ Settings.default.baseName)
      = .ok (.entry [['w']] Settings.default.baseName, false) := by decide +kernel
  have free : w₀.disk.node? ([['w']] ++ [Settings.default.baseName]) = none := by decide +kernel
  have regular : ∀ node, w₀.disk.node? ([['w']] ++ [Settings.default.baseName]) = some node →
      ∃ id, node = .file id := by
    intro node hnode
    rw [free] at hnode
    exact absurd hnode (by simp)
  obtain ⟨s, w, hopen, hcheck⟩ := Sink.exists_of_passes hcheck
  simp only [Bool.and_eq_true, decide_eq_true_eq, Bool.not_eq_true', List.isEmpty_iff,
    List.all_eq_true] at hcheck
  obtain ⟨⟨⟨⟨hdir, hlinks⟩, hpending⟩, haccepted⟩, hdelivered⟩ := hcheck
  refine ⟨s, w, hopen, ?_⟩
  rintro c rfl
  have ready : (Destination.archive a).Ready [['a']] s.pending w.disk := by
    refine ⟨hdir, fun other _ target => Disk.not_link hlinks _ target, ?_⟩
    rw [hpending]
    exact fun q hq => absurd hq List.not_mem_nil
  have reached :
      Reached (Others (.archive a) s.live.path [['w']] [['a']] Settings.default.baseName)
        (Delivers (.archive a) s.live.path [['w']] [['a']] Settings.default.baseName)
        (Course.mk s w []) (uploadedOnce s w) :=
    Reached.turnsAt (.step (.step .start (.output _ [97])) (.rollOver _))
      (fun w w' store hstore => absurd hstore (by simp)) 0 _
  obtain ⟨kept, present⟩ :=
    stored_kept_iff hopen sound place regular ready (by decide) reached
  have same : ∀ q bytes, .delivered q bytes ∈ (uploadedOnce s w).deeds → bytes = [97] :=
    fun q bytes hmem => hdelivered bytes (List.mem_filterMap.mpr ⟨_, hmem, rfl⟩)
  have agree : (uploadedOnce s w).Agree := by
    intro q bytes q' bytes' hmem hmem' _
    rw [same q bytes hmem, same q' bytes' hmem']
  exact ⟨kept.mpr agree, present agree [97] haccepted⟩

/-- Two rollovers within one second, each followed by an upload: the second upload takes away what
the first one had stored, and the first record is nowhere. -/
theorem record_lost_within_second :
    ∃ s w c, Sink.start { Settings.default with connection := "buf:dest".toList }
        (some (.archive .unset)) (.fresh ['w']) = (.ok s, w) ∧
      Reached (fun _ _ => False) (fun _ _ => True) { sink := s, world := w, deeds := [] } c ∧
      [97] ∈ c.accepted ∧ ∀ loc bytes, c.world.disk.fileAt? loc = some bytes → ¬ [97] <:+: bytes := by
  have hcheck : Sink.passes (Sink.start { Settings.default with connection := "buf:dest".toList }
      (some (.archive .unset)) (.fresh ['w'])) (fun s w =>
        decide ([97] ∈ (uploadedTwice s w).accepted) &&
          !(uploadedTwice s w).world.disk.holdsPart [97]) = true := by decide +kernel
  obtain ⟨s, w, hstart, hcheck⟩ := Sink.exists_of_passes hcheck
  simp only [Bool.and_eq_true, decide_eq_true_eq, Bool.not_eq_true'] at hcheck
  obtain ⟨haccepted, hlost⟩ := hcheck
  have first : Reached (fun _ _ => False) (fun _ _ => True) (Course.mk s w []) (uploadedOnce s w) :=
    Reached.turnsAt (.step (.step .start (.output _ [97])) (.rollOver _)) (fun _ _ => trivial) 0 _
  have reached : Reached (fun _ _ => False) (fun _ _ => True) (Course.mk s w [])
      (uploadedTwice s w) :=
    Reached.turnsAt (.step (.step first (.output _ [98])) (.rollOver _)) (fun _ _ => trivial) 1 _
  exact ⟨s, w, uploadedTwice s w, hstart, reached, haccepted,
    fun loc bytes hfile => Disk.not_part_of_file hlost hfile⟩

end Opened

end Course

end Outbox
