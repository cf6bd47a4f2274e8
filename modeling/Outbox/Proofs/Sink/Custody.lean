import Outbox.Proofs.Destination.Holdings
import Outbox.Proofs.Sink.Conservation

/-!
# Custody of files

What a sink has put away stays in its buffer directory until the destination has taken it
(`Handed`), and from then on there is something at the destination in its place (`Custody`): what
was delivered there last. What happens in the buffer directory changes nothing at the destination,
and the other way round, because they are two directories. A delivery to an archive also needs that
no file has the name of another one's unfinished copy.
-/

set_option autoImplicit false

namespace Outbox

/-- The place of the live file, or one beside it where no file is. -/
def Vacant (d : Disk) (dir : Location) (name : Name) (loc : Location) : Prop :=
  ∃ other, loc = dir ++ [other] ∧ (other = name ∨ ∀ id, d.node? loc ≠ some (.file id))

theorem Untouched.of_alters {places : Location → Prop} {path : Path} {dir : Location} {name : Name}
    {d d' : Disk} (site : Site d path dir name) (alters : Disk.Alters places d d')
    (away : ∀ other, ¬ places (dir ++ [other])) : Untouched path dir name d d' where
  sound := alters.sound
  way := (site.only.of_narrows alters.narrows).goal
  entries := fun other => alters.nodes (away other)
  contents := fun _ hnode => alters.contents (away _) hnode
  live := fun hnode => alters.contents (away _) hnode

theorem Destination.Preserved.of_alters {places : Location → Prop} {b : Destination}
    {dest : Location} {d d' : Disk} (alters : Disk.Alters places d d')
    (away : b.isFiles = true → ∀ name, ¬ places (dest ++ [name])) : b.Preserved dest d d' where
  leads := fun _ _ hleads => hleads.of_narrows alters.narrows
  nodes := fun hfiles name => alters.nodes (away hfiles name)
  contents := fun hfiles _ _ hnode => alters.contents (away hfiles _) hnode

namespace Course

variable {dir dest : Location} {name : Name} {c c' : Course}

/-! ### Calls on the sink -/

theorem Buffer.append_alters (h : Buffer dir name c) (record : Bytes) :
    Disk.Alters (Vacant c.world.disk dir name) c.world.disk (c.append record).world.disk := by
  cases h.appends record with
  | failed s w faults sink disk course =>
    rw [course, disk]
    exact Disk.alters_faults h.site.sound _ faults
  | written s live w id faults sink remains node disk course =>
    have alters := (Disk.alters_setContent (h.site.sound.withFaults faults) node
      (c.world.disk.content id ++ record)).of_faults
    rw [course, disk]
    exact alters.mono fun loc hloc => ⟨name, hloc, .inl rfl⟩

/-- The live file moves to a place where no file was. -/
theorem Buffer.moved_alters {target : Path} {w : World} (h : Buffer dir name c)
    (moved : c.sink.live.putAway LiveFile.stampPattern c.world = .moved target w) :
    Disk.Alters (Vacant c.world.disk dir name) c.world.disk w.disk := by
  obtain ⟨id, -, hnode⟩ := h.open_of_putAway (by simp [moved])
  obtain ⟨other, moves⟩ := LiveFile.putAway_moved h.site h.called hnode moved
  obtain ⟨faults, hdisk⟩ := moves.disk
  have alters := Disk.alters_move h.site.sound hnode (h.site.sound.parent hnode)
    (moves.follows.plain h.site.only.plain) moves.not_dir moves.ne
  rw [hdisk]
  apply (alters.withFaults faults).mono
  rintro loc (rfl | rfl)
  · exact ⟨name, rfl, .inl rfl⟩
  · exact ⟨other, rfl, .inr moves.not_file⟩

theorem Buffer.rollOver_alters (h : Buffer dir name c) :
    Disk.Alters (Vacant c.world.disk dir name) c.world.disk c.rollOver.world.disk := by
  cases h.rollsOver with
  | kept live w faults remains disk course =>
    rw [course, disk]
    exact Disk.alters_faults h.site.sound _ faults
  | closed target w w' faults moved disk course =>
    rw [course, disk]
    exact (h.moved_alters moved).withFaults faults
  | rolled target w w' live s faults moved opened parent disk arrives course =>
    obtain ⟨-, -, -, hnone, -, -, hput⟩ := h.moved moved
    have made : Disk.Alters (· = dir ++ [name]) w.disk w'.disk := by
      rw [disk]
      have alters := Disk.alters_putNewFile hput.site.sound parent h.site.only.plain hnone
      exact alters.withFaults faults
    rw [course]
    exact (h.moved_alters moved).trans (made.mono fun loc hloc => ⟨name, hloc, .inl rfl⟩)

/-! ### What has been handed over -/

def Undelivering (deeds : List Deed) : Prop :=
  ∀ q bytes, .delivered q bytes ∉ deeds

theorem undelivering_nil : Undelivering [] := fun _ _ => List.not_mem_nil

theorem undelivering_append {deeds more : List Deed} (h : Undelivering deeds)
    (h' : Undelivering more) : Undelivering (deeds ++ more) := by
  intro q bytes hmem
  rcases List.mem_append.mp hmem with hmem | hmem
  · exact h q bytes hmem
  · exact h' q bytes hmem

theorem undelivering_started (s s' : Sink) : Undelivering (started s s') := by
  intro q bytes h
  obtain ⟨u, -, hu⟩ := List.mem_map.mp h
  exact absurd hu (by simp)

theorem undelivering_taking (record : Bytes) (result : Except SinkError Unit) :
    Undelivering (taking record result) := by
  intro q bytes
  cases result <;> simp [taking]

theorem undelivering_rollDeeds (s : Sink) (w : World) : Undelivering (rollDeeds s w) := by
  refine undelivering_append (fun q bytes => ?_) fun q bytes => ?_
  · rw [closing]
    split <;> simp
  · cases (s.rollOver w).1 <;> simp [rolling]

/-- Every file that was put away is in the buffer directory as it was, or has been delivered as it
was. -/
def Handed (deeds : List Deed) : Prop :=
  ∀ q bytes, .closed q bytes ∈ deeds → Standing deeds q bytes ∨ .delivered q bytes ∈ deeds

theorem handed_concat {deeds : List Deed} {deed : Deed} (h : Handed deeds)
    (same : ∀ q bytes taken, deed = .delivered q taken → Standing deeds q bytes → taken = bytes) :
    Handed (deeds ++ [deed]) := by
  intro q bytes hmem
  rw [standing_concat]
  rcases List.mem_append.mp hmem with hmem | hmem
  · rcases h q bytes hmem with hstanding | hdelivered
    · by_cases htaken : ∃ taken, deed = .delivered q taken
      · obtain ⟨taken, rfl⟩ := htaken
        obtain rfl := same q bytes taken rfl hstanding
        exact .inr (by simp)
      · exact .inl (.inl ⟨hstanding, fun taken heq => htaken ⟨taken, heq⟩⟩)
    · exact .inr (List.mem_append_left _ hdelivered)
  · exact .inl (.inr (List.mem_singleton.mp hmem).symm)

theorem handed_append {deeds more : List Deed} (h : Handed deeds) (none : Undelivering more) :
    Handed (deeds ++ more) := by
  induction more using List.reverseRecOn with
  | nil => rwa [List.append_nil]
  | append_singleton more last ih =>
    rw [← List.append_assoc]
    refine handed_concat (ih fun q bytes hmem => none q bytes (by simp [hmem])) ?_
    rintro q bytes taken rfl
    exact absurd (by simp) (none q taken)

/-! ### What is at the destination -/

/-- What the deliveries to an archive rely on, and how far they are. -/
structure Filing (a : Archive) (dest : Location) (c : Course) : Prop where
  leads : Archive.Leads c.world.disk a.directory dest
  linkless : ∀ other, Plain other → c.world.disk.Linkless (dest ++ [Archive.unfinished other])
  copied : ∀ u ∈ c.sink.uploads, ∀ {id : Nat} {stage : Delivery} {other : Name},
    u.phase = .delivering (.file id) stage → u.path.fileName? = some other →
      Archive.Copied dest other (c.world.disk.content id) c.world.disk u.phase
  /-- No delivered file has the name of another one's unfinished copy. -/
  named : ∀ q bytes, .delivered q bytes ∈ c.deeds →
    ∀ other, q.fileName? ≠ some (Archive.unfinished other)

/-- The destination has something for each file that was delivered: what was delivered to the same
place. -/
structure Custody (b : Destination) (dest : Location) (c : Course) : Prop where
  like : b.Like c.sink.destination
  filing : ∀ a, c.sink.destination = .archive a → Filing a dest c
  stocked : ∀ q bytes, .delivered q bytes ∈ c.deeds → ∃ q' bytes' place,
    .delivered q' bytes' ∈ c.deeds ∧ b.place? q = some place ∧ b.place? q' = some place ∧
      c.sink.destination.Holds dest c.world.disk place bytes'

section Change

variable {b : Destination}

/-- A step without a delivery that leaves the destination alone, and the files that are being
delivered. -/
theorem Custody.change {deeds : List Deed} (h : Custody b dest c)
    (destination : c'.sink.destination = c.sink.destination)
    (preserved : c.sink.destination.Preserved dest c.world.disk c'.world.disk)
    (uploads : ∀ u ∈ c'.sink.uploads, ∀ {id : Nat} {stage : Delivery},
      u.phase = .delivering (.file id) stage → stage = .begun ∨
        (u ∈ c.sink.uploads ∧ c'.world.disk.content id = c.world.disk.content id))
    (hdeeds : c'.deeds = c.deeds ++ deeds) (none : Undelivering deeds) : Custody b dest c' := by
  have before : ∀ {q : Path} {bytes : Bytes}, .delivered q bytes ∈ c'.deeds →
      .delivered q bytes ∈ c.deeds := by
    intro q bytes hmem
    rw [hdeeds, List.mem_append] at hmem
    exact hmem.resolve_right (none q bytes)
  refine ⟨destination ▸ h.like, fun a harchive => ?_, fun q bytes hmem => ?_⟩
  · rw [destination] at harchive
    have filing := h.filing a harchive
    have hfiles : c.sink.destination.isFiles = true := by rw [harchive]; rfl
    refine ⟨preserved.leads a harchive filing.leads, fun other plain target => ?_, ?_,
      fun q bytes hmem => filing.named q bytes (before hmem)⟩
    · rw [preserved.nodes hfiles]
      exact filing.linkless other plain target
    · intro u hu id stage other hphase hname
      rcases uploads u hu hphase with rfl | ⟨hu, hcontent⟩
      · rw [hphase]
        trivial
      · rw [hcontent]
        exact (filing.copied u hu hphase hname).of_same (preserved.nodes hfiles _)
          (preserved.contents hfiles)
          (Disk.fileAt?_congr (preserved.nodes hfiles _) (preserved.contents hfiles))
  · obtain ⟨q', bytes', place, hmem', hplace, hplace', hheld⟩ := h.stocked q bytes (before hmem)
    have hsame : c.sink.destination.place? q = some place := (h.like.place? q).trans hplace
    refine ⟨q', bytes', place, ?_, hplace, hplace', ?_⟩
    · rw [hdeeds]
      exact List.mem_append_left _ hmem'
    · rw [destination]
      exact hheld.of_preserved hsame preserved

/-- The file that a delivery reads is not touched where no file is. -/
theorem Buffer.content_of_vacant (h : Buffer dir name c) {d : Disk} {u : Upload} {id : Nat}
    {stage : Delivery} (alters : Disk.Alters (Vacant c.world.disk dir name) c.world.disk d)
    (hu : u ∈ c.sink.uploads) (hphase : u.phase = .delivering (.file id) stage) :
    d.content id = c.world.disk.content id := by
  obtain ⟨other, id', hplaced, hid⟩ := h.reading u hu _ _ hphase
  rw [Handle.file.injEq] at hid
  subst hid
  refine alters.contents ?_ hplaced.node
  rintro ⟨other', heq, hother⟩
  obtain rfl : other = other' := by simpa using heq
  rcases hother with hother | hother
  · exact hplaced.ne hother
  · exact hother id hplaced.node

theorem Custody.of_vacant {deeds : List Deed} (h : Custody b dest c) (buffer : Buffer dir name c)
    (apart : dest ≠ dir)
    (alters : Disk.Alters (Vacant c.world.disk dir name) c.world.disk c'.world.disk)
    (destination : c'.sink.destination = c.sink.destination)
    (uploads : ∀ u ∈ c'.sink.uploads, u ∈ c.sink.uploads ∨ u.phase = .opening)
    (hdeeds : c'.deeds = c.deeds ++ deeds) (none : Undelivering deeds) : Custody b dest c' := by
  refine h.change destination (.of_alters alters fun _ other => ?_) (fun u hu id stage hphase => ?_)
    hdeeds none
  · rintro ⟨other', heq, -⟩
    exact apart (List.append_inj' heq rfl).1
  · rcases uploads u hu with hu | hopening
    · exact .inr ⟨hu, buffer.content_of_vacant alters hu hphase⟩
    · rw [hopening] at hphase
      exact absurd hphase (by simp)

end Change

section Calls

variable {b : Destination}

theorem rollOver_destination (s : Sink) (w : World) :
    (s.rollOver w).2.1.destination = s.destination := by
  rw [Sink.rollOver]
  split
  · rfl
  · dsimp only
    split <;> rfl

theorem append_destination (s : Sink) (record : Bytes) (w : World) :
    (s.append record w).2.1.destination = s.destination := by
  rw [Sink.append]
  split <;> rfl

theorem dispatchNext_destination (s : Sink) : s.dispatchNext.destination = s.destination := by
  rw [Sink.dispatchNext]
  split
  · rfl
  · split <;> rfl

theorem opening_of_mem {uploads : List Upload} {s' : Sink}
    (h : s'.uploads = uploads ∨ ∃ path, s'.uploads = uploads ++ [Upload.ofPath path]) :
    ∀ u ∈ s'.uploads, u ∈ uploads ∨ u.phase = .opening := by
  intro u hu
  rcases h with heq | ⟨path, heq⟩
  · exact .inl (heq ▸ hu)
  · rw [heq, List.mem_append, List.mem_singleton] at hu
    rcases hu with hu | rfl
    · exact .inl hu
    · exact .inr rfl

theorem Custody.append (h : Custody b dest c) (buffer : Buffer dir name c) (apart : dest ≠ dir)
    (record : Bytes) : Custody b dest (c.append record) := by
  refine h.of_vacant buffer apart (buffer.append_alters record) (append_destination _ _ _)
    (opening_of_mem (.inl (append_uploads _ _ _))) rfl ?_
  exact undelivering_append (undelivering_append undelivering_nil (undelivering_started _ _))
    (undelivering_taking _ _)

theorem Custody.rollOver (h : Custody b dest c) (buffer : Buffer dir name c) (apart : dest ≠ dir) :
    Custody b dest c.rollOver := by
  refine h.of_vacant buffer apart buffer.rollOver_alters (rollOver_destination _ _)
    (opening_of_mem (rollOver_uploads _ _)) rfl ?_
  exact undelivering_append
    (undelivering_append (undelivering_rollDeeds _ _) (undelivering_started _ _)) undelivering_nil

theorem Custody.dispatchNext (h : Custody b dest c) (buffer : Buffer dir name c)
    (apart : dest ≠ dir) : Custody b dest c.dispatchNext := by
  refine h.of_vacant buffer apart (Disk.alters_faults buffer.site.sound _ c.world.disk.faults)
    (dispatchNext_destination _) (opening_of_mem (dispatchNext_uploads _)) rfl ?_
  exact undelivering_append
    (undelivering_append undelivering_nil (undelivering_started _ _)) undelivering_nil

theorem Custody.close (h : Custody b dest c) (buffer : Buffer dir name c) (apart : dest ≠ dir) :
    Custody b dest c.close := by
  obtain ⟨faults, hdisk⟩ := c.sink.live.close_disk c.world
  refine h.of_vacant buffer apart ?_ rfl (fun u hu => .inl hu) (List.append_nil _).symm
    undelivering_nil
  rw [Course.close, hdisk]
  exact Disk.alters_faults buffer.site.sound _ faults

end Calls

/-! ### Uploads -/

section Uploads

variable {b : Destination} {before after uploads : List Upload} {u : Upload}

theorem Custody.goUpload {result : Upload × Destination × World} (h : Custody b dest c)
    (among : c.sink.uploads = before ++ u :: after)
    (perm : uploads.Perm (result.1 :: (before ++ after)))
    (destination : result.2.1 = c.sink.destination)
    (preserved : c.sink.destination.Preserved dest c.world.disk result.2.2.disk)
    (stays : ∀ v ∈ c.sink.uploads, ∀ {id : Nat} {stage : Delivery},
      v.phase = .delivering (.file id) stage → result.2.2.disk.content id = c.world.disk.content id)
    (going : ∀ {source : Handle} {stage : Delivery}, result.1.phase = .delivering source stage →
      stage = .begun ∨ result.1 = u)
    (quiet : delivery u result.1 c.world = []) : Custody b dest (c.goUpload u result uploads) := by
  have hu : u ∈ c.sink.uploads := by simp [among]
  refine h.change destination preserved (fun v hv id stage hphase => ?_) rfl ?_
  · rcases List.mem_cons.mp (perm.mem_iff.mp hv) with rfl | hv
    · rcases going hphase with hbegun | heq
      · exact .inl hbegun
      · rw [heq] at hphase ⊢
        exact .inr ⟨hu, stays u hu hphase⟩
    · exact .inr ⟨mem_of_among among hv, stays v (mem_of_among among hv) hphase⟩
  · rw [quiet]
    exact undelivering_nil

theorem Custody.turn_idle {phase : Phase} {w : World} {faults : List (Option OsError)}
    (h : Custody b dest c) (buffer : Buffer dir name c)
    (among : c.sink.uploads = before ++ u :: after)
    (still : ∀ source stage, u.phase ≠ .delivering source stage)
    (begun : ∀ {source stage}, phase = .delivering source stage → stage = .begun)
    (disk : w.disk = { c.world.disk with faults })
    (turn : u.turn c.sink.destination c.world = ({ u with phase }, c.sink.destination, w)) :
    Custody b dest (c.turn before u after) := by
  have quiet : ∀ u' : Upload, delivery u u' c.world = [] := by
    intro u'
    rw [delivery]
    split
    · next source stage hphase _ => exact absurd hphase (still source stage)
    · rfl
  rw [Course.turn, turn]
  refine h.goUpload among List.perm_middle rfl ?_ (fun v _ id stage _ => ?_)
    (fun hphase => .inl (begun hphase)) (quiet _)
  · rw [disk]
    exact .of_alters (Disk.alters_faults buffer.site.sound (fun _ => False) faults)
      fun _ _ => not_false
  · rw [disk]
    rfl

/-- The file of an upload that has been delivered goes, and no other one. -/
theorem Custody.turn_removed {other : Name} {id : Nat} {w : World} {faults : List (Option OsError)}
    (h : Custody b dest c) (buffer : Buffer dir name c) (apart : dest ≠ dir)
    (among : c.sink.uploads = before ++ u :: after) (hphase : u.phase = .removing)
    (placed : Placed c.sink.live.path dir name c.world.disk u.path other id)
    (disk : w.disk = { c.world.disk.take (dir ++ [other]) with faults })
    (turn : u.turn c.sink.destination c.world
      = ({ u with phase := .ended (.ok ()) }, c.sink.destination, w)) :
    Custody b dest (c.turn before u after) := by
  have hneeds : u.needsFile = true := by simp [Upload.needsFile, hphase]
  have alters : Disk.Alters (· = dir ++ [other]) c.world.disk w.disk := by
    rw [disk]
    exact (Disk.alters_take buffer.site.sound placed.node (by simp)).withFaults faults
  have stays : ∀ v ∈ c.sink.uploads, ∀ {id : Nat} {stage : Delivery},
      v.phase = .delivering (.file id) stage → w.disk.content id = c.world.disk.content id := by
    intro v hv id' stage hstage
    rw [among, List.perm_middle.mem_iff, List.mem_cons] at hv
    rcases hv with rfl | hv
    · rw [hphase] at hstage
      exact absurd hstage (by simp)
    · obtain ⟨other', placed', hne⟩ := buffer.other_delivery among hneeds placed hv hstage
      exact alters.contents (by simpa using hne) placed'.node
  rw [Course.turn, turn]
  refine h.goUpload among List.perm_middle rfl (.of_alters alters fun _ other' heq => ?_)
    stays (fun heq => absurd heq (by simp)) (by simp [delivery, hphase])
  exact apart (List.append_inj' heq rfl).1

/-! ### Deliveries -/

theorem delivery_afterTurn {source : Handle} {stage : Delivery}
    (hphase : u.phase = .delivering source stage) (turn : Turn) (w : World) :
    delivery u { u with phase := Upload.afterTurn source turn } w
      = match turn with
        | .ended (.ok ()) => [.delivered u.path (source.bytes w.disk)]
        | _ => [] := by
  rw [delivery, hphase]
  rcases turn with stage' | (e | _) <;> rfl

/-- A delivery takes away at most what its own place held, and only if it succeeds. -/
theorem Custody.stocked_turn {source : Handle} {stage : Delivery} {turn : Turn} {b' : Destination}
    {d' : Disk} (h : Custody b dest c) (hphase : u.phase = .delivering source stage)
    (kept : ∀ {q : Path} {bytes held : Bytes} {place : List Name}, .delivered q bytes ∈ c.deeds →
      c.sink.destination.place? q = some place →
      c.sink.destination.Holds dest c.world.disk place held →
        b'.Holds dest d' place held ∨
          (turn = .ended (.ok ()) ∧ c.sink.destination.place? u.path = some place))
    (placed : turn = .ended (.ok ()) → ∃ place, c.sink.destination.place? u.path = some place ∧
      b'.Holds dest d' place (source.bytes c.world.disk)) :
    ∀ q bytes, .delivered q bytes ∈ c.deeds
        ++ delivery u { u with phase := Upload.afterTurn source turn } c.world →
      ∃ q' bytes' place,
        .delivered q' bytes' ∈ c.deeds
          ++ delivery u { u with phase := Upload.afterTurn source turn } c.world ∧
        b.place? q = some place ∧ b.place? q' = some place ∧ b'.Holds dest d' place bytes' := by
  have hplace : ∀ q, c.sink.destination.place? q = b.place? q := h.like.place?
  -- what the delivery has put there
  have fresh : turn = .ended (.ok ()) → ∃ place, b.place? u.path = some place ∧
      .delivered u.path (source.bytes c.world.disk) ∈ c.deeds
        ++ delivery u { u with phase := Upload.afterTurn source turn } c.world ∧
      b'.Holds dest d' place (source.bytes c.world.disk) := by
    intro hturn
    obtain ⟨place, hsame, hheld⟩ := placed hturn
    refine ⟨place, (hplace u.path).symm.trans hsame, ?_, hheld⟩
    rw [delivery_afterTurn hphase, hturn]
    simp
  intro q bytes hmem
  rcases List.mem_append.mp hmem with hmem | hmem
  · obtain ⟨q', bytes', place, hmem', hq, hq', hheld⟩ := h.stocked q bytes hmem
    rcases kept hmem' ((hplace q').trans hq') hheld with hheld | ⟨hturn, hsame⟩
    · exact ⟨q', bytes', place, List.mem_append_left _ hmem', hq, hq', hheld⟩
    · obtain ⟨place', hsame', hnew, hfresh⟩ := fresh hturn
      rw [hplace, hsame', Option.some.injEq] at hsame
      subst hsame
      exact ⟨u.path, _, place', hnew, hq, hsame', hfresh⟩
  · rw [delivery_afterTurn hphase] at hmem
    split at hmem
    · next hturn =>
      rw [List.mem_singleton, Deed.delivered.injEq] at hmem
      obtain ⟨rfl, rfl⟩ := hmem
      obtain ⟨place, hsame, hmem', hheld⟩ := fresh rfl
      exact ⟨u.path, _, place, hmem', hsame, hsame, hheld⟩
    · exact absurd hmem List.not_mem_nil

section Archive

variable {a a' : Archive} {id : Nat} {other : Name} {turn : Turn} {w' : World}

theorem not_in_buffer (apart : dest ≠ dir) (other' : Name) :
    ¬ (dir ++ [other'] = dest ++ [Archive.unfinished other] ∨
      (dir ++ [other'] = dest ++ [other] ∧ turn = .ended (.ok ()))) := by
  rintro (heq | ⟨heq, -⟩)
  · exact apart (List.append_inj' heq rfl).1.symm
  · exact apart (List.append_inj' heq rfl).1.symm

theorem Filing.copied_other {v : Upload} {id' : Nat} {stage : Delivery} {other' : Name}
    (filing : Filing a dest c) (buffer : Buffer dir name c) (apart : dest ≠ dir)
    (among : c.sink.uploads = before ++ u :: after) (needs : u.needsFile = true)
    (tidy : ∀ v ∈ c.sink.uploads, ∀ other, v.path.fileName? ≠ some (Archive.unfinished other))
    (placed : Placed c.sink.live.path dir name c.world.disk u.path other id)
    (proceeds : Archive.Proceeds a dest other (c.world.disk.content id) (.file id) c.world
      (turn, a', w'))
    (hv : v ∈ before ++ after) (hphase : v.phase = .delivering (.file id') stage)
    (hother : v.path.fileName? = some other') :
    Archive.Copied dest other' (w'.disk.content id') w'.disk v.phase := by
  have alters : Disk.Alters (fun loc => loc = dest ++ [Archive.unfinished other] ∨
      (loc = dest ++ [other] ∧ turn = .ended (.ok ()))) c.world.disk w'.disk := proceeds.alters
  have hu : u ∈ c.sink.uploads := by simp [among]
  have hv' : v ∈ c.sink.uploads := mem_of_among among hv
  obtain ⟨other'', placed', hne⟩ := buffer.other_delivery among needs placed hv hphase
  obtain rfl : other'' = other' := by
    rw [placed'.fileName?, Option.some.injEq] at hother
    exact hother
  rw [alters.contents (not_in_buffer apart other'') placed'.node]
  apply (filing.copied v hv' hphase hother).of_alters alters
  · rintro (heq | ⟨heq, -⟩)
    · apply hne
      simpa [Archive.unfinished] using heq
    · apply tidy u hu other''
      rw [placed.fileName?]
      simpa [eq_comm] using heq
  · rintro (heq | ⟨heq, -⟩)
    · apply tidy v hv' other
      rw [hother]
      simpa using heq
    · exact hne (by simpa using heq)

theorem Filing.goUpload (filing : Filing a dest c) (buffer : Buffer dir name c) (apart : dest ≠ dir)
    (among : c.sink.uploads = before ++ u :: after) (needs : u.needsFile = true)
    (tidy : ∀ v ∈ c.sink.uploads, ∀ other, v.path.fileName? ≠ some (Archive.unfinished other))
    (placed : Placed c.sink.live.path dir name c.world.disk u.path other id)
    (proceeds : Archive.Proceeds a dest other (c.world.disk.content id) (.file id) c.world
      (turn, a', w')) :
    Filing a' dest (c.goUpload u
      ({ u with phase := Upload.afterTurn (.file id) turn }, .archive a', w')
      (before ++ { u with phase := Upload.afterTurn (.file id) turn } :: after)) := by
  have hu : u ∈ c.sink.uploads := by simp [among]
  have alters : Disk.Alters (fun loc => loc = dest ++ [Archive.unfinished other] ∨
      (loc = dest ++ [other] ∧ turn = .ended (.ok ()))) c.world.disk w'.disk := proceeds.alters
  have hdirectory : a'.directory = a.directory := proceeds.directory
  refine ⟨?_, fun other' plain => alters.linkless (filing.linkless other' plain), ?_, ?_⟩
  · rw [hdirectory]
    exact filing.leads.of_narrows alters.narrows
  · intro v hv id' stage' other' hstage hother
    rcases List.mem_cons.mp (List.perm_middle.mem_iff.mp hv) with rfl | hv
    · obtain rfl : id' = id := Handle.file.inj (source_of_afterTurn hstage)
      obtain rfl : other = other' := Option.some.inj (placed.fileName?.symm.trans hother)
      show Archive.Copied dest other (w'.disk.content id') w'.disk _
      rw [alters.contents (not_in_buffer apart other) placed.node]
      exact proceeds.copied
    · exact filing.copied_other buffer apart among needs tidy placed proceeds hv hstage hother
  · intro q bytes hmem other'
    rcases List.mem_append.mp hmem with hmem | hmem
    · exact filing.named q bytes hmem other'
    · rw [delivery] at hmem
      split at hmem
      · rw [List.mem_singleton, Deed.delivered.injEq] at hmem
        rw [hmem.1]
        exact tidy u hu other'
      · exact absurd hmem List.not_mem_nil

theorem Custody.turn_archive {source : Handle} {stage : Delivery} (h : Custody b dest c)
    (buffer : Buffer dir name c) (apart : dest ≠ dir)
    (among : c.sink.uploads = before ++ u :: after) (harchive : c.sink.destination = .archive a)
    (hphase : u.phase = .delivering source stage)
    (tidy : ∀ v ∈ c.sink.uploads, ∀ other,
      v.path.fileName? ≠ some (Archive.unfinished other)) :
    Hands c.sink.live.path dir name c.world (c.turn before u after).world ∧
      Custody b dest (c.turn before u after) := by
  have hu : u ∈ c.sink.uploads := by simp [among]
  have hneeds : u.needsFile = true := by simp [Upload.needsFile, hphase]
  obtain ⟨other, id, hplaced, rfl⟩ := buffer.reading u hu source stage hphase
  have filing := h.filing a harchive
  have hcopied := filing.copied u hu hphase hplaced.fileName?
  rw [hphase] at hcopied
  have proceeds := Archive.turn_proceeds buffer.site.sound filing.leads hplaced.plain
    hplaced.fileName? (filing.linkless other hplaced.plain) rfl rfl hcopied
  cases hturn : a.turn u.path (.file id) stage c.world with
  | mk turn result =>
    obtain ⟨a', w'⟩ := result
    rw [hturn] at proceeds
    have hgo : u.turn c.sink.destination c.world
        = ({ u with phase := Upload.afterTurn (.file id) turn }, .archive a', w') := by
      rw [Upload.turn, hphase, harchive]
      simp only [Destination.turn, hturn]
    have alters : Disk.Alters (fun loc => loc = dest ++ [Archive.unfinished other] ∨
        (loc = dest ++ [other] ∧ turn = .ended (.ok ()))) c.world.disk w'.disk := proceeds.alters
    rw [Course.turn, hgo]
    refine ⟨.of_alters buffer.site alters (not_in_buffer apart), ?_, fun a'' harchive' => ?_, ?_⟩
    · have hlike := h.like
      rw [harchive] at hlike
      exact hlike.trans proceeds.directory
    · obtain rfl : a' = a'' := Destination.archive.inj harchive'
      exact filing.goUpload buffer apart among hneeds tidy hplaced proceeds
    · refine h.stocked_turn hphase (fun {q bytes held place} hmem hplace hheld => ?_) fun hok => ?_
      · rw [harchive] at hplace hheld
        obtain ⟨other', hname, rfl⟩ := Option.map_eq_some_iff.mp hplace
        by_cases htaken : other' = other ∧ turn = .ended (.ok ())
        · obtain ⟨rfl, hok⟩ := htaken
          refine .inr ⟨hok, ?_⟩
          rw [harchive, Destination.place?, hplaced.fileName?]
          rfl
        · refine .inl (Eq.trans (alters.fileAt? ?_) hheld)
          rintro (heq | ⟨heq, hok⟩)
          · apply filing.named q bytes hmem other
            rw [hname]
            simpa using heq
          · exact htaken ⟨by simpa using heq, hok⟩
      · have hcopy := proceeds.copied
        dsimp only at hcopy
        rw [hok] at hcopy
        refine ⟨[other], ?_, hcopy⟩
        rw [harchive, Destination.place?, hplaced.fileName?]
        rfl

end Archive

/-- A turn of a delivery to a store that keeps its objects in memory leaves the disk alone. For
objects that are kept in files this depends on where they are. -/
theorem Custody.turn_store {s : ObjectStore} {source : Handle} {stage : Delivery}
    (h : Custody b dest c) (buffer : Buffer dir name c)
    (among : c.sink.uploads = before ++ u :: after) (hstore : c.sink.destination = .store s)
    (hphase : u.phase = .delivering source stage)
    (delivers : s.shelf.isFiles = true →
      Hands c.sink.live.path dir name c.world (c.turn before u after).world ∧
        Shelf.Lands dest c.world.disk (c.turn before u after).world.disk) :
    Hands c.sink.live.path dir name c.world (c.turn before u after).world ∧
      Custody b dest (c.turn before u after) := by
  have hu : u ∈ c.sink.uploads := by simp [among]
  obtain ⟨other, id, hplaced, rfl⟩ := buffer.reading u hu source stage hphase
  have serves := s.turn_serves dest u.path id buffer.site.sound
  cases hturn : s.turn u.path (.file id) c.world with
  | mk turn result =>
    obtain ⟨s', w'⟩ := result
    rw [hturn] at serves
    have hgo : u.turn c.sink.destination c.world
        = ({ u with phase := Upload.afterTurn (.file id) turn }, .store s', w') := by
      rw [Upload.turn, hphase, hstore]
      simp only [Destination.turn, hturn]
    rw [Course.turn, hgo] at delivers ⊢
    refine ⟨?_, ?_, fun a harchive => ?_, ?_⟩
    · cases hfiles : s.shelf.isFiles with
      | true => exact (delivers hfiles).1
      | false =>
        obtain ⟨faults, hdisk⟩ := serves.disk hfiles
        change Untouched c.sink.live.path dir name c.world.disk w'.disk
        rw [hdisk]
        exact buffer.site.untouched faults
    · have hlike := h.like
      rw [hstore] at hlike
      exact hlike.trans serves.like
    · exact absurd harchive (by simp [Course.goUpload])
    · refine h.stocked_turn hphase (fun {q bytes held place} _ hplace hheld => ?_) fun hok => ?_
      · rw [hstore] at hplace hheld ⊢
        exact serves.kept (fun hfiles => Destination.place_of_isFiles (b := .store s) hfiles hplace)
          hheld
      · rw [hstore]
        exact serves.placed hok fun hfiles => (delivers hfiles).2

theorem Custody.release (h : Custody b dest c) (buffer : Buffer dir name c)
    (among : c.sink.uploads = before ++ u :: after) (action : Action) :
    Hands c.sink.live.path dir name c.world (c.release before u after action).world ∧
      Custody b dest (c.release before u after action) := by
  have hquiet : delivery u u c.world = [] := by
    rw [delivery]
    cases u.phase <;> rfl
  have hunchanged := buffer.site.untouched c.world.disk.faults
  rw [Course.release, h.like.release u action c.world]
  refine ⟨hunchanged, h.goUpload among List.perm_append_comm rfl ?_ (fun _ _ _ _ _ => rfl)
    (fun _ => .inr rfl) hquiet⟩
  exact .of_alters (Disk.alters_faults buffer.site.sound (fun _ => False) c.world.disk.faults)
    fun _ _ => not_false

/-- What a delivery has read is what was put away. -/
theorem Buffer.handed_delivery (buffer : Buffer dir name c) (handed : Handed c.deeds)
    (hu : u ∈ c.sink.uploads) (u' : Upload) : Handed (c.deeds ++ delivery u u' c.world) := by
  rw [delivery]
  split
  · next source stage hphase hremoving =>
    refine handed_concat handed fun q bytes taken heq hstanding => ?_
    obtain ⟨rfl, rfl⟩ := Deed.delivered.inj heq
    obtain ⟨other, id, hplaced, hbytes, -⟩ := buffer.standing _ _ hstanding
    obtain ⟨other', id', hplaced', rfl⟩ := buffer.reading u hu source stage hphase
    have hother : other' = other := by
      have hname := hplaced'.fileName?
      rw [hplaced.fileName?, Option.some.injEq] at hname
      exact hname.symm
    have hid := hplaced'.node
    rw [hother, hplaced.node, Option.some.injEq, Node.file.injEq] at hid
    rw [← hbytes, hid]
    rfl
  · exact handed_append handed undelivering_nil

end Uploads

/-! ### Courses -/

/-- Others have left the buffer directory and the destination alone. -/
def Others (b : Destination) (path : Path) (dir dest : Location) (name : Name) (w w' : World) :
    Prop :=
  Hands path dir name w w' ∧ b.Preserved dest w.disk w'.disk

/-- A delivery to a store that keeps its objects in files has left the buffer directory alone, and
has put files into the directory of the store only. -/
def Delivers (b : Destination) (path : Path) (dir dest : Location) (name : Name) (w w' : World) :
    Prop :=
  ∀ s, b = .store s → s.shelf.isFiles = true →
    Hands path dir name w w' ∧ Shelf.Lands dest w.disk w'.disk

section Step

variable {b : Destination}

theorem Buffer.handed_step {outside deliveries : World → World → Prop} (buffer : Buffer dir name c)
    (handed : Handed c.deeds) (step : Step outside deliveries c c') : Handed c'.deeds := by
  have rolling : ∀ roll : Bool,
      Undelivering (if roll then rollDeeds c.sink c.world else []) := by
    intro roll
    cases roll with
    | true => exact undelivering_rollDeeds _ _
    | false => exact undelivering_nil
  cases step with
  | output record =>
    exact handed_append handed (undelivering_append
      (undelivering_append (rolling _) (undelivering_started _ _)) (undelivering_taking _ _))
  | rollOver =>
    exact handed_append handed (undelivering_append
      (undelivering_append (rolling true) (undelivering_started _ _)) undelivering_nil)
  | tick =>
    exact handed_append handed (undelivering_append
      (undelivering_append (rolling _) (undelivering_started _ _)) undelivering_nil)
  | flag => exact handed
  | turn before u after among delivers =>
    exact buffer.handed_delivery handed (by simp [among]) _
  | release before u after action among delivers =>
    exact buffer.handed_delivery handed (by simp [among]) _
  | handIn => exact handed
  | settle outcome => exact handed_append handed fun q bytes => by simp
  | close => exact handed
  | outside => exact handed

theorem Custody.turn {before after : List Upload} {u : Upload} (h : Custody b dest c)
    (buffer : Buffer dir name c) (apart : dest ≠ dir)
    (tidy : ∀ a, c.sink.destination = .archive a → ∀ v ∈ c.sink.uploads, ∀ other,
      v.path.fileName? ≠ some (Archive.unfinished other))
    (among : c.sink.uploads = before ++ u :: after)
    (delivers : ∀ {source stage}, u.phase = .delivering source stage →
      Delivers b c.sink.live.path dir dest name c.world (c.turn before u after).world) :
    (∀ {source stage}, u.phase = .delivering source stage →
      Hands c.sink.live.path dir name c.world (c.turn before u after).world) ∧
      Custody b dest (c.turn before u after) := by
  cases buffer.turns (by simp [among] : u ∈ c.sink.uploads) with
  | idle phase w faults still needs reads stays disk turn =>
    exact ⟨fun hstage => absurd hstage (still _ _),
      h.turn_idle buffer among still (fun hstage => (reads hstage).1) disk turn⟩
  | removed other id w faults hphase placed disk turn =>
    refine ⟨fun hstage => ?_, h.turn_removed buffer apart among hphase placed disk turn⟩
    rw [hphase] at hstage
    exact absurd hstage (by simp)
  | delivering source stage hphase =>
    cases hdestination : c.sink.destination with
    | archive a =>
      obtain ⟨hands, custody⟩ :=
        h.turn_archive buffer apart among hdestination hphase (tidy a hdestination)
      exact ⟨fun _ => hands, custody⟩
    | store s =>
      obtain ⟨s₀, hb, hlike⟩ := (hdestination ▸ h.like).of_store
      obtain ⟨hands, custody⟩ := h.turn_store buffer among hdestination hphase fun hfiles =>
        delivers hphase s₀ hb (hlike.shelf.isFiles ▸ hfiles)
      exact ⟨fun _ => hands, custody⟩
    | scripted s => exact absurd (hdestination ▸ h.like) Destination.not_like_scripted

/-- Every step keeps what is in custody, and leaves the buffer directory to the sink. -/
theorem Custody.step (h : Custody b dest c) (buffer : Buffer dir name c) (apart : dest ≠ dir)
    (tidy : ∀ a, c.sink.destination = .archive a → ∀ v ∈ c.sink.uploads, ∀ other,
      v.path.fileName? ≠ some (Archive.unfinished other))
    (step : Step (Others b c.sink.live.path dir dest name)
      (Delivers b c.sink.live.path dir dest name) c c') :
    Step (Hands c.sink.live.path dir name) (Hands c.sink.live.path dir name) c c' ∧
      Custody b dest c' := by
  have unchanged : Disk.Alters (Vacant c.world.disk dir name) c.world.disk c.world.disk :=
    Disk.alters_faults buffer.site.sound _ c.world.disk.faults
  cases step with
  | output record =>
    refine ⟨.output c record, ?_⟩
    rw [output_eq]
    split
    · split
      · exact (h.rollOver buffer apart).append buffer.rollOver apart record
      · exact h.rollOver buffer apart
    · exact h.append buffer apart record
  | rollOver => exact ⟨.rollOver c, h.rollOver buffer apart⟩
  | tick =>
    refine ⟨.tick c, ?_⟩
    rw [tick_eq]
    split
    · split
      · exact (h.rollOver buffer apart).dispatchNext buffer.rollOver apart
      · exact h.rollOver buffer apart
    · exact h.dispatchNext buffer apart
  | flag flushWaiting =>
    exact ⟨.flag c flushWaiting, h.of_vacant buffer apart unchanged rfl (fun u hu => .inl hu)
      (List.append_nil _).symm undelivering_nil⟩
  | turn before u after among delivers =>
    obtain ⟨hands, custody⟩ := h.turn buffer apart tidy among delivers
    exact ⟨.turn c before u after among hands, custody⟩
  | release before u after action among delivers =>
    obtain ⟨hands, custody⟩ := h.release buffer among action
    exact ⟨.release c before u after action among hands, custody⟩
  | handIn before u after result among ended =>
    exact ⟨.handIn c before u after result among ended, h.of_vacant buffer apart unchanged rfl
      (fun v hv => .inl (mem_of_among among hv)) (List.append_nil _).symm undelivering_nil⟩
  | settle outcome rest first =>
    obtain ⟨-, huploads, -, -, hdisk⟩ :=
      settleOutcome_sink { c.sink with outcomes := rest } outcome c.world
    refine ⟨.settle c outcome rest first, h.of_vacant buffer apart ?_ ?_ (fun v hv => .inl ?_) rfl
      fun q bytes => by simp⟩
    · rw [Course.settle, hdisk]
      exact unchanged
    · rw [Course.settle, Sink.settleOutcome]
      split <;> rfl
    · rw [Course.settle, huploads] at hv
      exact hv
  | close => exact ⟨.close c, h.close buffer apart⟩
  | outside w acts =>
    obtain ⟨hands, preserved⟩ := acts
    refine ⟨.outside c w hands, ?_⟩
    refine h.change rfl (preserved.of_like h.like) (fun u hu id stage hphase => .inr ⟨hu, ?_⟩)
      (List.append_nil _).symm undelivering_nil
    obtain ⟨other, id', placed, hid⟩ := buffer.reading u hu _ _ hphase
    obtain rfl := Handle.file.inj hid
    exact hands.contents placed.ne placed.node

end Step

end Course

end Outbox
