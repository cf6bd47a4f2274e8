import Outbox.Proofs.Sink.Opening

/-!
# Conservation of records

What the live file held at first and the records taken since then are, in order, in the files that
it was rolled into and in the live file, and no record is in two of them. A pack is what goes into
one file. Only two kinds of steps matter: an append adds to the last pack, and a rename closes it.
-/

set_option autoImplicit false

namespace Outbox

namespace Course

variable {dir : Location} {name : Name} {found : Bytes} {c c' : Course}

/-- The records that were taken, in order. -/
def accepted (c : Course) : List Bytes :=
  c.deeds.filterMap Deed.accepted?

/-- The contents of the files that the live file was renamed to, in order. -/
def closed (c : Course) : List Bytes :=
  c.deeds.filterMap Deed.closed?

def liveBytes (dir : Location) (name : Name) (c : Course) : Bytes :=
  (c.world.disk.fileAt? (dir ++ [name])).getD []

/-- The records are packed into the closed files and the live file. -/
def Packed (dir : Location) (name : Name) (found : Bytes) (c : Course) : Prop :=
  ∃ (packs : List (List Bytes)) (last : List Bytes), found :: c.accepted = packs.flatten ++ last ∧
    c.closed = packs.map List.flatten ∧ c.liveBytes dir name = last.flatten

/-- Deeds that take no record and close no file. -/
structure Still (deeds : List Deed) : Prop where
  accepted : deeds.filterMap Deed.accepted? = []
  closed : deeds.filterMap Deed.closed? = []

theorem still_nil : Still [] :=
  ⟨rfl, rfl⟩

theorem still_started (s s' : Sink) : Still (started s s') := by
  constructor
  · rw [started, List.filterMap_map]
    exact List.filterMap_eq_nil_iff.mpr fun _ _ => rfl
  · rw [started, List.filterMap_map]
    exact List.filterMap_eq_nil_iff.mpr fun _ _ => rfl

theorem Still.rolled {deeds : List Deed} {target : Path} (h : Still deeds) :
    Still (.rolled target :: deeds) :=
  ⟨h.accepted, h.closed⟩

theorem still_delivery (u u' : Upload) (w : World) : Still (delivery u u' w) := by
  rw [delivery]
  split
  · exact ⟨rfl, rfl⟩
  · exact still_nil

theorem Packed.of_still (h : Packed dir name found c) {deeds : List Deed}
    (hdeeds : c'.deeds = c.deeds ++ deeds) (still : Still deeds)
    (live : c'.liveBytes dir name = c.liveBytes dir name) : Packed dir name found c' := by
  obtain ⟨packs, last, haccepted, hclosed, hlive⟩ := h
  refine ⟨packs, last, ?_, ?_, live.trans hlive⟩
  · rw [accepted, hdeeds, List.filterMap_append, still.accepted, List.append_nil]
    exact haccepted
  · rw [closed, hdeeds, List.filterMap_append, still.closed, List.append_nil]
    exact hclosed

/-! ### The live file -/

theorem liveBytes_of_node {id : Nat} (h : c.world.disk.node? (dir ++ [name]) = some (.file id)) :
    c.liveBytes dir name = c.world.disk.content id := by
  rw [liveBytes, Disk.fileAt?_of_node h]
  rfl

theorem liveBytes_of_none (h : c.world.disk.node? (dir ++ [name]) = none) :
    c.liveBytes dir name = [] := by
  rw [liveBytes, Disk.fileAt?, h]
  rfl

theorem liveBytes_of_untouched (b : Buffer dir name c)
    (h : Untouched c.sink.live.path dir name c.world.disk c'.world.disk) :
    c'.liveBytes dir name = c.liveBytes dir name := by
  have hentry := h.entries name
  rcases b.entry with hnone | ⟨id, hnode⟩
  · rw [liveBytes_of_none hnone, liveBytes_of_none (hentry.trans hnone)]
  · rw [liveBytes_of_node hnode, liveBytes_of_node (hentry.trans hnode), h.live hnode]

theorem Packed.append (h : Packed dir name found c) (b : Buffer dir name c) (record : Bytes) :
    Packed dir name found (c.append record) := by
  cases b.appends record with
  | failed s w faults sink disk course =>
    rw [course]
    refine h.of_still (List.append_nil _).symm still_nil (liveBytes_of_untouched b ?_)
    rw [disk]
    exact b.site.untouched faults
  | written s live w id faults sink remains node disk course =>
    have hnode : w.disk.node? (dir ++ [name]) = some (.file id) := by
      rw [disk]
      exact node
    have hcontent : w.disk.content id = c.world.disk.content id ++ record := by
      have hset := Disk.content_setContent { c.world.disk with faults } id id
        (c.world.disk.content id ++ record) (b.site.sound.numbered node)
      rw [disk, hset, if_pos rfl]
    obtain ⟨packs, last, haccepted, hclosed, hbytes⟩ := h
    rw [course]
    refine ⟨packs, last ++ [record], ?_, ?_, ?_⟩
    · rw [accepted, List.filterMap_append, ← List.cons_append]
      show (found :: c.accepted) ++ [record] = _
      rw [haccepted, List.append_assoc]
    · rw [closed, List.filterMap_append]
      show c.closed ++ [] = _
      rw [List.append_nil, hclosed]
    · rw [liveBytes_of_node hnode, List.flatten_concat, ← hbytes, liveBytes_of_node node]
      exact hcontent

/-- What is renamed closes the last pack. -/
theorem Packed.closed {target : Path} {w w' : World} {s : Sink} {deeds : List Deed}
    (h : Packed dir name found c) (b : Buffer dir name c)
    (moved : c.sink.live.putAway LiveFile.stampPattern c.world = .moved target w)
    (empty : (w'.disk.fileAt? (dir ++ [name])).getD [] = []) (still : Still deeds) :
    Packed dir name found
      { sink := s, world := w'
        deeds := c.deeds ++ [.closed target (c.sink.live.bytes c.world.disk)] ++ deeds } := by
  obtain ⟨id, hhandle, hnode⟩ := b.open_of_putAway (by simp [moved])
  have hbytes : c.sink.live.bytes c.world.disk = c.liveBytes dir name := by
    rw [liveBytes_of_node hnode, LiveFile.bytes, hhandle]
    rfl
  obtain ⟨packs, last, haccepted, hclosed, hlive⟩ := h
  refine ⟨packs ++ [last], [], ?_, ?_, empty⟩
  · rw [accepted, List.filterMap_append, List.filterMap_append, still.accepted, List.flatten_concat,
      List.append_nil, List.append_nil, ← haccepted]
    show found :: (c.accepted ++ []) = _
    rw [List.append_nil]
  · rw [Course.closed, List.filterMap_append, List.filterMap_append, still.closed, List.append_nil,
      List.map_append, ← hclosed]
    show c.closed ++ [c.sink.live.bytes c.world.disk] = _
    rw [hbytes, hlive]
    rfl

theorem Packed.rollOver (h : Packed dir name found c) (b : Buffer dir name c) :
    Packed dir name found c.rollOver := by
  cases b.rollsOver with
  | kept live w faults remains disk course =>
    rw [course]
    refine h.of_still (List.append_nil _).symm still_nil (liveBytes_of_untouched b ?_)
    rw [disk]
    exact b.site.untouched faults
  | closed target w w' faults moved disk course =>
    obtain ⟨-, -, -, hnone, -⟩ := b.moved moved
    have empty : (w'.disk.fileAt? (dir ++ [name])).getD [] = [] := by
      rw [disk, Disk.fileAt?, Disk.node?_faults, hnone]
      rfl
    rw [course, ← List.append_nil (c.deeds ++ _)]
    exact h.closed b moved empty still_nil
  | rolled target w w' live s faults moved opened parent disk arrives course =>
    obtain ⟨-, -, -, hnone, -⟩ := b.moved moved
    have empty : (w'.disk.fileAt? (dir ++ [name])).getD [] = [] := by
      rw [disk, Disk.fileAt?, Disk.node?_faults, Disk.node?_putNewFile _ _ _ (by simp), if_pos rfl]
      simp only [Disk.content_faults, Disk.content_putNewFile, Option.getD_some]
      simp [Disk.content]
    rw [course]
    exact h.closed b moved empty (still_started c.sink s).rolled

/-! ### Uploads -/

/-- A turn of an upload leaves the live file alone: what it reads or removes is another file. -/
theorem liveBytes_turn {before after : List Upload} {u : Upload} (b : Buffer dir name c)
    (among : c.sink.uploads = before ++ u :: after)
    (delivers : ∀ {source stage}, u.phase = .delivering source stage →
      Hands c.sink.live.path dir name c.world (c.turn before u after).world) :
    (c.turn before u after).liveBytes dir name = c.liveBytes dir name := by
  have hworld : (c.turn before u after).world = (u.turn c.sink.destination c.world).2.2 := rfl
  cases b.turns (by simp [among] : u ∈ c.sink.uploads) with
  | idle phase w faults still needs reads stays disk turn =>
    refine liveBytes_of_untouched b ?_
    rw [hworld, turn, disk]
    exact b.site.untouched faults
  | delivering source stage hphase => exact liveBytes_of_untouched b (delivers hphase)
  | removed other id w faults hphase placed disk turn =>
    have hne : dir ++ [name] ≠ dir ++ [other] := by simpa using placed.ne.symm
    rw [liveBytes, liveBytes, hworld, turn, disk, Disk.fileAt?, Disk.fileAt?, Disk.node?_faults,
      Disk.node?_take _ _ _ (by simp), if_neg hne]
    rfl

theorem Packed.dispatchNext (h : Packed dir name found c) :
    Packed dir name found c.dispatchNext := by
  refine h.of_still ?_ (still_started c.sink c.sink.dispatchNext) rfl
  simp only [Course.dispatchNext, go, List.nil_append, List.append_nil]

theorem Packed.step {outside deliveries : World → World → Prop} (h : Packed dir name found c)
    (b : Buffer dir name c)
    (houtside : ∀ {w w'}, outside w w' → Hands c.sink.live.path dir name w w')
    (hdeliveries : ∀ {w w'}, deliveries w w' → Hands c.sink.live.path dir name w w')
    (step : Step outside deliveries c c') : Packed dir name found c' := by
  cases step with
  | output record =>
    rw [output_eq]
    split
    · split
      · exact (h.rollOver b).append b.rollOver record
      · exact h.rollOver b
    · exact h.append b record
  | rollOver => exact h.rollOver b
  | tick =>
    rw [tick_eq]
    split
    · split
      · exact (h.rollOver b).dispatchNext
      · exact h.rollOver b
    · exact h.dispatchNext
  | flag => exact h.of_still (List.append_nil _).symm still_nil rfl
  | turn before u after among delivers =>
    exact h.of_still rfl (still_delivery _ _ _)
      (liveBytes_turn b among fun hphase => hdeliveries (delivers hphase))
  | release before u after action among delivers =>
    exact h.of_still rfl (still_delivery _ _ _)
      (liveBytes_of_untouched b (hdeliveries delivers))
  | handIn before u after result among ended =>
    exact h.of_still (List.append_nil _).symm still_nil rfl
  | settle outcome rest first =>
    obtain ⟨-, -, -, -, hdisk⟩ :=
      settleOutcome_sink { c.sink with outcomes := rest } outcome c.world
    refine h.of_still rfl ⟨rfl, rfl⟩ ?_
    rw [liveBytes, liveBytes, Course.settle, hdisk]
  | close =>
    obtain ⟨faults, hdisk⟩ := c.sink.live.close_disk c.world
    refine h.of_still (List.append_nil _).symm still_nil (liveBytes_of_untouched b ?_)
    rw [Course.close, hdisk]
    exact b.site.untouched faults
  | outside w acts =>
    exact h.of_still (List.append_nil _).symm still_nil
      (liveBytes_of_untouched b (houtside acts))

/-! ### Whole courses -/

section Reached

variable {settings : Settings} {bufferDir : Path} {destination : Destination}
  {s : Sink} {w₀ w : World}

theorem Packed.reached {path : Path} {c₀ : Course} (h : Packed dir name found c₀)
    (b : Buffer dir name c₀) (hpath : c₀.sink.live.path = path)
    (reached : Reached (Hands path dir name) (Hands path dir name) c₀ c) :
    Buffer dir name c ∧ Packed dir name found c ∧ c.sink.live.path = path := by
  refine b.along hpath id id h (fun hbuffer hlive hpacked step => ?_) reached
  subst hlive
  exact hpacked.step hbuffer id id step

theorem packed_of_openLive (h : Sink.openLive settings bufferDir destination w₀ = (.ok s, w))
    (sound : w₀.disk.Sound)
    (place : w₀.disk.goal (bufferDir.join settings.baseName) = .ok (.entry dir name, false))
    (regular : ∀ node, w₀.disk.node? (dir ++ [name]) = some node → ∃ id, node = .file id) :
    Packed dir name ((w₀.disk.fileAt? (dir ++ [name])).getD [])
      { sink := s, world := w, deeds := [] } := by
  obtain ⟨id, -, hnode, hcontent, -⟩ := live_of_openLive h sound place regular
  refine ⟨[], [(w₀.disk.fileAt? (dir ++ [name])).getD []], rfl, rfl, ?_⟩
  rw [liveBytes_of_node hnode, hcontent]
  simp

/-- What the live file held when it was opened and the records taken since are, in order, what was
put away and what the live file holds. No record is in two files, and what was put away is in the
buffer directory as it was, unless the destination has taken that file. -/
theorem records_conserved (h : Sink.openLive settings bufferDir destination w₀ = (.ok s, w))
    (sound : w₀.disk.Sound)
    (place : w₀.disk.goal (bufferDir.join settings.baseName) = .ok (.entry dir name, false))
    (regular : ∀ node, w₀.disk.node? (dir ++ [name]) = some node → ∃ id, node = .file id)
    (reached : Reached (Hands s.live.path dir name) (Hands s.live.path dir name)
      { sink := s, world := w, deeds := [] } c) :
    (w₀.disk.fileAt? (dir ++ [name])).getD [] ++ c.accepted.flatten
        = c.closed.flatten ++ c.liveBytes dir name ∧
      (∃ (packs : List (List Bytes)) (last : List Bytes),
        (w₀.disk.fileAt? (dir ++ [name])).getD [] :: c.accepted = packs.flatten ++ last ∧
          c.closed = packs.map List.flatten ∧ c.liveBytes dir name = last.flatten) ∧
      ∀ q bytes, Standing c.deeds q bytes → ∃ other, q.fileName? = some other ∧ other ≠ name ∧
        c.world.disk.fileAt? (dir ++ [other]) = some bytes := by
  obtain ⟨hbuffer, hpacked, -⟩ := (packed_of_openLive h sound place regular).reached
    (buffer_of_openLive h sound place regular) rfl reached
  refine ⟨?_, hpacked, fun q bytes hstanding => ?_⟩
  · obtain ⟨packs, last, haccepted, hclosed, hlive⟩ := hpacked
    rw [hclosed, hlive, ← List.flatten_cons, haccepted, List.flatten_append]
    simp [List.flatten_flatten]
  · obtain ⟨other, id, hplaced, hbytes, -⟩ := hbuffer.standing q bytes hstanding
    refine ⟨other, hplaced.fileName?, hplaced.ne, ?_⟩
    rw [Disk.fileAt?_of_node hplaced.node, hbytes]

end Reached

/-- A sink in the start directory of an empty disk takes a record, rolls it over and takes
another. -/
theorem records_conserved_over_rollover :
    ∃ s w, Sink.openLive .default ⟨['.']⟩ (.scripted (.ofScript [] none)) (.fresh ['w'])
        = (.ok s, w) ∧
      ∀ c, c = (((Course.mk s w []).output [97]).rollOver).output [98] →
        c.accepted.flatten
          = c.closed.flatten ++ c.liveBytes [['w']] Settings.default.baseName := by
  have hok : Sink.passes (Sink.openLive .default ⟨['.']⟩ (.scripted (.ofScript [] none))
      (.fresh ['w'])) (fun _ _ => true) = true := by decide +kernel
  obtain ⟨s, w, hopen, -⟩ := Sink.exists_of_passes hok
  refine ⟨s, w, hopen, ?_⟩
  rintro c rfl
  have place : (World.fresh ['w']).disk.goal (Path.join ⟨['.']⟩ Settings.default.baseName)
      = .ok (.entry [['w']] Settings.default.baseName, false) := by decide +kernel
  have free : (World.fresh ['w']).disk.node? ([['w']] ++ [Settings.default.baseName]) = none := by
    decide +kernel
  have regular : ∀ node, (World.fresh ['w']).disk.node?
      ([['w']] ++ [Settings.default.baseName]) = some node → ∃ id, node = .file id := by
    intro node hnode
    rw [free] at hnode
    exact absurd hnode (by simp)
  have reached : Reached (Hands s.live.path [['w']] Settings.default.baseName)
      (Hands s.live.path [['w']] Settings.default.baseName) (Course.mk s w [])
      ((((Course.mk s w []).output [97]).rollOver).output [98]) :=
    .step (.step (.step .start (.output _ [97])) (.rollOver _)) (.output _ [98])
  have hfound : ((World.fresh ['w']).disk.fileAt?
      ([['w']] ++ [Settings.default.baseName])).getD [] = [] := by
    rw [Disk.fileAt?, free]
    rfl
  have hall := (records_conserved hopen World.fresh_sound place regular reached).1
  rw [hfound, List.nil_append] at hall
  exact hall

end Course

end Outbox
