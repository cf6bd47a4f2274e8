import Outbox.Proofs.Sink.Loss
import Outbox.Proofs.Sink.Recovery
import Outbox.Proofs.Sink.Survival

/-!
# Files and their owners

A rolled file waits in the queue, in one upload, or with the outcome of one, and in one of them
only: a rollover takes a name that no file has, and a file keeps its name until the upload that it
waits in has removed it (`owned_once`). A file of the directory that nothing waits for is never
taken up again, which is what becomes of a file that could not be removed after its upload
(`Abandoned`).

All of this rests on the live file being a regular file. A rollover of a symbolic link gives the
link the new name, and a name whose link leads nowhere counts as free at the next one
(`rolled_twice`).
-/

set_option autoImplicit false

namespace Outbox

theorem begun_of_regular {settings : Settings} {b : Destination} {dir : Location} {w₀ w : World}
    {s : Sink} {id : Nat} (start : Sink.start settings (some b) w₀ = (.ok s, w))
    (sound : w₀.disk.Sound) (plain : Plain settings.baseName)
    (leads : w.disk.dirOf? settings.bufferDir = some dir)
    (regular : w.disk.node? (dir ++ [settings.baseName]) = some (.file id)) :
    Begun settings dir s w := by
  obtain ⟨b', w₁, w₂, -, -, -, hopen, -, hsound, hdir⟩ := Sink.opening_of_start start sound leads
  have opened := Sink.opened_of_openLive hopen
  refine ⟨b', w₂, hopen, hsound,
    Disk.goal_of_dirOf? hdir plain (opened.path ▸ opened.valid), fun node hnode => ?_⟩
  exact ⟨id, Option.some.inj ((opened.grows.nodes hnode).symm.trans regular)⟩

namespace Course

variable {dir : Location} {name other : Name} {bytes : Bytes} {c c' : Course}

/-! ### What an upload waits for -/

theorem needsFile_of_turn {u : Upload} {b : Destination} {w : World}
    (h : (u.turn b w).1.needsFile = true) : u.needsFile = true := by
  rw [Upload.turn] at h
  split at h
  · next hphase => simp [Upload.needsFile, hphase]
  · next hphase => simp [Upload.needsFile, hphase]
  · next hphase => simp [Upload.needsFile, hphase]
  · exact h

theorem needsFile_of_release {u : Upload} {action : Action} {b : Destination} {w : World}
    (h : (u.release action b w).1.needsFile = true) : u.needsFile = true := by
  rw [Upload.release] at h
  split at h
  · next hphase => simp [Upload.needsFile, hphase]
  · exact h

/-! ### Files that nothing waits for -/

/-- A file beside the live file that nothing waits for. -/
structure Abandoned (dir : Location) (name other : Name) (bytes : Bytes) (c : Course) : Prop where
  ne : other ≠ name
  file : c.world.disk.fileAt? (dir ++ [other]) = some bytes
  free : ∀ q ∈ c.sink.waiting, q.fileName? ≠ some other

theorem Abandoned.change (h : Abandoned dir name other bytes c)
    (file : c'.world.disk.fileAt? (dir ++ [other]) = c.world.disk.fileAt? (dir ++ [other]))
    (waiting : c'.sink.waiting ⊆ c.sink.waiting) : Abandoned dir name other bytes c' :=
  ⟨h.ne, file.trans h.file, fun q hq => h.free q (waiting hq)⟩

/-- What a step alters at the place of the live file and at places of no file is not this file. -/
theorem Abandoned.fileAt_of_vacant {d : Disk} (h : Abandoned dir name other bytes c)
    (alters : Disk.Alters (Vacant c.world.disk dir name) c.world.disk d) :
    d.fileAt? (dir ++ [other]) = c.world.disk.fileAt? (dir ++ [other]) := by
  refine alters.fileAt? ?_
  rintro ⟨other', heq, hother⟩
  obtain rfl : other = other' := by simpa using heq
  obtain ⟨id, hnode, -⟩ := Disk.node_of_fileAt? h.file
  exact hother.elim h.ne fun free => free id hnode

theorem Abandoned.fileAt_of_hands {w : World} (h : Abandoned dir name other bytes c)
    (hands : Hands c.sink.live.path dir name c.world w) :
    w.disk.fileAt? (dir ++ [other]) = c.world.disk.fileAt? (dir ++ [other]) :=
  Disk.fileAt?_congr (hands.entries other) (hands.contents h.ne)

theorem Abandoned.append (h : Abandoned dir name other bytes c) (b : Buffer dir name c)
    (record : Bytes) : Abandoned dir name other bytes (c.append record) := by
  refine h.change (h.fileAt_of_vacant (b.append_alters record)) ?_
  cases b.appends record with
  | failed s w faults sink disk course =>
    rw [course, sink]
    exact fun q hq => hq
  | written s live w id faults sink remains node disk course =>
    rw [course, sink]
    exact fun q hq => hq

theorem Abandoned.rollOver (h : Abandoned dir name other bytes c) (b : Buffer dir name c) :
    Abandoned dir name other bytes c.rollOver := by
  have file := h.fileAt_of_vacant b.rollOver_alters
  cases b.rollsOver with
  | kept live w faults remains disk course =>
    refine h.change file ?_
    rw [course]
    exact fun q hq => hq
  | closed target w w' faults moved disk course =>
    refine h.change file ?_
    rw [course]
    exact fun q hq => hq
  | rolled target w w' live s faults moved opened parent disk arrives course =>
    refine ⟨h.ne, file.trans h.file, fun q hq => ?_⟩
    rw [course] at hq
    rcases List.mem_cons.mp (arrives.waiting.mem_iff.mp hq) with rfl | hq
    · obtain ⟨id, -, hnode⟩ := b.open_of_putAway (by simp [moved])
      obtain ⟨other', moves⟩ := LiveFile.putAway_moved b.site b.called hnode moved
      rw [moves.beside.endsIn.fileName? (moves.follows.plain b.site.only.plain), ne_eq,
        Option.some.injEq]
      rintro rfl
      obtain ⟨id', hfile, -⟩ := Disk.node_of_fileAt? h.file
      exact moves.not_file id' hfile
    · exact h.free q hq

theorem Abandoned.dispatchNext (h : Abandoned dir name other bytes c) :
    Abandoned dir name other bytes c.dispatchNext :=
  h.change rfl (waiting_dispatchNext c.sink).subset

theorem Abandoned.turn {before after : List Upload} {u : Upload}
    (h : Abandoned dir name other bytes c) (b : Buffer dir name c)
    (among : c.sink.uploads = before ++ u :: after)
    (delivers : ∀ {source stage}, u.phase = .delivering source stage →
      Hands c.sink.live.path dir name c.world (c.turn before u after).world) :
    Abandoned dir name other bytes (c.turn before u after) := by
  have hu : u ∈ c.sink.uploads := by simp [among]
  have hworld : (c.turn before u after).world = (u.turn c.sink.destination c.world).2.2 := rfl
  refine h.change ?_ (waiting_goUpload among List.perm_middle (turn_path u _ _)
    needsFile_of_turn).subset
  cases b.turns hu with
  | idle phase w faults still needs reads stays disk turn =>
    rw [hworld, turn, disk]
    rfl
  | delivering source stage hphase => exact h.fileAt_of_hands (delivers hphase)
  | removed other' id w faults hphase placed disk turn =>
    have hne : dir ++ [other] ≠ dir ++ [other'] := by
      have hfree := h.free u.path (mem_waiting hu (by simp [Upload.needsFile, hphase]))
      rw [placed.fileName?] at hfree
      simpa [eq_comm] using hfree
    have alters := Disk.alters_take b.site.sound placed.node (by simp)
    rw [hworld, turn, disk]
    exact (alters.withFaults faults).fileAt? hne

theorem Abandoned.step {outside deliveries : World → World → Prop}
    (h : Abandoned dir name other bytes c) (b : Buffer dir name c)
    (houtside : ∀ {w w'}, outside w w' → Hands c.sink.live.path dir name w w')
    (hdeliveries : ∀ {w w'}, deliveries w w' → Hands c.sink.live.path dir name w w')
    (step : Step outside deliveries c c') : Abandoned dir name other bytes c' := by
  cases step with
  | output record =>
    rw [output_eq]
    split
    · split
      · exact (h.rollOver b).append b.rollOver record
      · exact h.rollOver b
    · exact h.append b record
  | rollOver => exact h.rollOver b
  | tick =>
    rw [tick_eq]
    split
    · split
      · exact (h.rollOver b).dispatchNext
      · exact h.rollOver b
    · exact h.dispatchNext
  | flag => exact h.change rfl fun q hq => hq
  | turn before u after among delivers =>
    exact h.turn b among fun hphase => hdeliveries (delivers hphase)
  | release before u after action among delivers =>
    refine h.change (h.fileAt_of_hands (hdeliveries delivers)) ?_
    exact (waiting_goUpload among List.perm_append_comm (release_path u action _ _)
      needsFile_of_release).subset
  | handIn before u after result among ended =>
    exact h.change rfl (waiting_handIn among ended).subset
  | settle outcome rest first =>
    obtain ⟨-, -, -, -, hdisk⟩ :=
      settleOutcome_sink { c.sink with outcomes := rest } outcome c.world
    refine h.change ?_ (waiting_settle first).subset
    rw [Course.settle, hdisk]
  | close =>
    obtain ⟨faults, hdisk⟩ := c.sink.live.close_disk c.world
    refine h.change ?_ fun q hq => hq
    rw [Course.close, hdisk]
    rfl
  | outside w acts => exact h.change (h.fileAt_of_hands (houtside acts)) fun q hq => hq

theorem Abandoned.reached {path : Path} (h : Abandoned dir name other bytes c)
    (b : Buffer dir name c) (hpath : c.sink.live.path = path)
    (reached : Reached (Hands path dir name) (Hands path dir name) c c') :
    Abandoned dir name other bytes c' := by
  refine (b.along hpath id id h (fun buffer hlive h step => ?_) reached).2.1
  subst hlive
  exact h.step buffer id id step

/-! ### Whole courses -/

section Reached

variable {settings : Settings} {b : Destination} {s : Sink} {w₀ w : World}

/-- The files of a sink wait once each: they are regular files of the buffer directory with names of
their own, and none of them is the live file. A file that has no part in this has none ever
after. -/
theorem owned_once (start : Sink.start settings (some b) w₀ = (.ok s, w)) (sound : w₀.disk.Sound)
    (named : Config.isPlainName settings.baseName = true)
    (leads : w.disk.dirOf? settings.bufferDir = some dir)
    (regular : ∃ id, w.disk.node? (dir ++ [settings.baseName]) = some (.file id))
    (reached : Reached (Hands s.live.path dir settings.baseName)
      (Hands s.live.path dir settings.baseName) { sink := s, world := w, deeds := [] } c) :
    c.sink.waiting.Nodup ∧ (c.sink.waiting.map Path.fileName?).Nodup ∧
      (∀ q ∈ c.sink.waiting, q ≠ c.sink.live.path ∧ ∃ other id, q.fileName? = some other ∧
        other ≠ settings.baseName ∧ c.world.disk.node? (dir ++ [other]) = some (.file id) ∧
        c.world.disk.Only q dir other) ∧
      ∀ other bytes, Abandoned dir settings.baseName other bytes c → ∀ c',
        Reached (Hands s.live.path dir settings.baseName) (Hands s.live.path dir settings.baseName)
          c c' → Abandoned dir settings.baseName other bytes c' := by
  obtain ⟨_, regular⟩ := regular
  have begun :=
    begun_of_regular start sound (Config.plain_of_isPlainName named) leads regular
  obtain ⟨hbuffer, -, hpath⟩ := begun.packed.reached begun.buffer rfl reached
  refine ⟨.of_map _ hbuffer.apart, hbuffer.apart, fun q hq => ?_, fun other bytes h c' later => ?_⟩
  · obtain ⟨other, id, placed⟩ := hbuffer.placed q hq
    refine ⟨?_, other, id, placed.fileName?, placed.ne, placed.node, placed.only hbuffer.site⟩
    rintro rfl
    have hname := hbuffer.site.only.endsIn.fileName? hbuffer.site.only.plain
    rw [placed.fileName?, Option.some.injEq] at hname
    exact placed.ne hname
  · exact h.reached hbuffer hpath later

end Reached

/-- Two records, each rolled over by itself within one second. -/
theorem owned_once_within_second :
    ∃ s w, Sink.start { Settings.default with connection := "buf:dest".toList }
        (some (.archive .unset)) (.fresh ['w']) = (.ok s, w) ∧
      ∀ c, c = ((((Course.mk s w []).output [97]).rollOver).output [98]).rollOver →
        c.sink.waiting.length = 2 ∧ c.sink.waiting.Nodup := by
  have hcheck : Sink.passes (Sink.start { Settings.default with connection := "buf:dest".toList }
      (some (.archive .unset)) (.fresh ['w'])) (fun s w =>
        decide (w.disk.dirOf? ⟨"buf".toList⟩ = some [['w'], "buf".toList]) &&
          decide (w.disk.node? [['w'], "buf".toList, Settings.default.baseName] = some (.file 1)) &&
          decide ((((((Course.mk s w []).output [97]).rollOver).output [98]).rollOver
            |>.sink.waiting.length) = 2)) = true := by decide +kernel
  obtain ⟨s, w, start, hcheck⟩ := Sink.exists_of_passes hcheck
  simp only [Bool.and_eq_true, decide_eq_true_eq] at hcheck
  obtain ⟨⟨leads, regular⟩, hlength⟩ := hcheck
  refine ⟨s, w, start, ?_⟩
  rintro c rfl
  exact ⟨hlength, (owned_once start World.fresh_sound (by decide) leads ⟨1, regular⟩
    (.step (.step (.step (.step .start (.output _ [97])) (.rollOver _)) (.output _ [98]))
      (.rollOver _))).1⟩

/-! ### A live file that is a link -/

/-- A disk on which the live file is a link to a file beside it, which is not there. -/
def linkedLive : Disk :=
  emptyBuffer.put ([['w'], "buf".toList] ++ [Settings.default.baseName])
    (.link ⟨"event-bundle.x".toList⟩)

theorem linkedLive_sound : linkedLive.Sound :=
  emptyBuffer_sound.putUnfiled (by decide) ⟨by decide, by decide, by decide, by decide⟩
    (by decide) (by simp)

/-- Nothing is done to the files of a disk. -/
def Unchanged (w w' : World) : Prop :=
  w'.disk.nodes = w.disk.nodes ∧ w'.disk.contents = w.disk.contents

/-- Whether the `i`-th upload, if it is being delivered, leaves the files of the disk as they are at
its next turn. -/
def quietAt (i : Nat) (c : Course) : Bool :=
  match c.sink.uploads.drop i with
  | [] => true
  | u :: _ =>
    match u.phase with
    | .delivering _ _ =>
      decide ((c.turnAt i).world.disk.nodes = c.world.disk.nodes) &&
        decide ((c.turnAt i).world.disk.contents = c.world.disk.contents)
    | _ => true

theorem Reached.turnAt_of_quiet {outside : World → World → Prop} {c₀ : Course} {i : Nat}
    (reached : Reached outside Unchanged c₀ c) (quiet : c.quietAt i = true) :
    Reached outside Unchanged c₀ (c.turnAt i) := by
  cases hdrop : c.sink.uploads.drop i with
  | nil =>
    rw [Course.turnAt, hdrop]
    exact reached
  | cons u after =>
    have hturn : c.turnAt i = c.turn (c.sink.uploads.take i) u after := by
      rw [Course.turnAt, hdrop]
    rw [hturn]
    refine .step reached (.turn c _ u after ?_ fun hphase => ?_)
    · rw [← hdrop, List.take_append_drop]
    · simp only [quietAt, hdrop, hphase, hturn, Bool.and_eq_true, decide_eq_true_eq] at quiet
      exact quiet

/-- A live file that leads to a file beside it: that file is found, uploaded and removed as one from
an earlier run. From then on a rollover gives a name that leads nowhere, and the next one within the
second gives it again. -/
theorem rolled_twice :
    ∃ s w c, linkedLive.Sound ∧
      Sink.start { Settings.default with connection := "buf:".toList }
        (some (.scripted (.ofScript [.accept] none)))
        { World.fresh ['w'] with disk := linkedLive } = (.ok s, w) ∧
      Reached (fun _ _ => False) Unchanged { sink := s, world := w, deeds := [] } c ∧
      ¬ c.sink.waiting.Nodup := by
  have hcheck : Sink.passes (Sink.start { Settings.default with connection := "buf:".toList }
      (some (.scripted (.ofScript [.accept] none)))
      { World.fresh ['w'] with disk := linkedLive }) (fun s w =>
        let c := (Course.mk s w []).tick
        c.quietAt 0 && (c.turnAt 0).quietAt 0 && ((c.turnAt 0).turnAt 0).quietAt 0 &&
          decide (¬ ((((c.turnAt 0).turnAt 0).turnAt 0).rollOver.rollOver).sink.waiting.Nodup))
      = true := by decide +kernel
  obtain ⟨s, w, start, hcheck⟩ := Sink.exists_of_passes hcheck
  simp only [Bool.and_eq_true, decide_eq_true_eq] at hcheck
  obtain ⟨⟨⟨hopening, hdelivering⟩, hremoving⟩, htwice⟩ := hcheck
  have ticked : Reached (fun _ _ => False) Unchanged (Course.mk s w []) (Course.mk s w []).tick :=
    .step .start (.tick _)
  have uploaded := ((ticked.turnAt_of_quiet hopening).turnAt_of_quiet hdelivering).turnAt_of_quiet
    hremoving
  exact ⟨s, w, _, linkedLive_sound, start, .step (.step uploaded (.rollOver _)) (.rollOver _),
    htwice⟩

end Course

end Outbox
