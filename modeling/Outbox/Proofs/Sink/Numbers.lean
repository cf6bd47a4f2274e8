import Outbox.Proofs.Sink.Marks

/-!
# The numbers of rolled files

Within one second a rollover takes the first number whose name is free. As long as the buffer
directory is left to the sink, a name becomes free only when a destination has taken its file
(`Fate`), so the numbers of one second go up, except where a rollover gives a name again that a
delivered file had (`Passed.later`).
-/

set_option autoImplicit false

namespace Outbox

/-- A file of this name was delivered, and then the name was given to what the live file held. -/
def GivenAgain (deeds : List Deed) (name : Name) : Prop :=
  ∃ p taken q bytes, [.delivered p taken, .closed q bytes].Sublist deeds ∧ p.fileName? = some name ∧
    q.fileName? = some name

theorem GivenAgain.mono {deeds deeds' : List Deed} {name : Name} (h : GivenAgain deeds name)
    (sublist : deeds.Sublist deeds') : GivenAgain deeds' name := by
  obtain ⟨p, taken, q, bytes, hdeeds, hnames⟩ := h
  exact ⟨p, taken, q, bytes, hdeeds.trans sublist, hnames⟩

def Gone (deeds : List Deed) (name : Name) : Prop :=
  ∃ q taken, .delivered q taken ∈ deeds ∧ q.fileName? = some name

theorem Gone.mono {deeds deeds' : List Deed} {name : Name} (h : Gone deeds name)
    (subset : deeds ⊆ deeds') : Gone deeds' name := by
  obtain ⟨q, taken, hmem, hname⟩ := h
  exact ⟨q, taken, subset hmem, hname⟩

theorem Gone.again {deeds more : List Deed} {name : Name} (h : Gone deeds name)
    (given : more.filterMap Deed.closedName? = [name]) : GivenAgain (deeds ++ more) name := by
  obtain ⟨p, taken, hmem, hname⟩ := h
  have hgiven : name ∈ more.filterMap Deed.closedName? := by simp [given]
  obtain ⟨deed, hdeed, hclosed⟩ := List.mem_filterMap.mp hgiven
  obtain ⟨q, bytes, rfl, hfile⟩ := Deed.exists_of_closedName? hclosed
  exact ⟨p, taken, q, bytes,
    (List.singleton_sublist.mpr hmem).append (List.singleton_sublist.mpr hdeed), hname, hfile⟩

/-- What has been put away is still there, or has been delivered since. -/
theorem standing_of_closed {deeds : List Deed} {q : Path} {bytes : Bytes}
    (h : .closed q bytes ∈ deeds) :
    Standing deeds q bytes ∨ ∃ taken, .delivered q taken ∈ deeds := by
  obtain ⟨before, after, rfl⟩ := List.append_of_mem h
  by_cases htaken : ∃ taken, .delivered q taken ∈ after
  · obtain ⟨taken, hmem⟩ := htaken
    exact .inr ⟨taken, by simp [hmem]⟩
  · exact .inl ⟨before, after, rfl, fun taken hmem => htaken ⟨taken, hmem⟩⟩

namespace Course

variable {outside deliveries : World → World → Prop} {dir : Location} {name other : Name}
  {c c' : Course}

/-! ### Removals -/

/-- What an upload removes has been delivered. -/
def Announced (c : Course) : Prop :=
  ∀ u ∈ c.sink.uploads, u.phase = .removing → ∃ taken, .delivered u.path taken ∈ c.deeds

theorem Announced.change (h : Announced c) (deeds : c.deeds ⊆ c'.deeds)
    (uploads : ∀ u ∈ c'.sink.uploads, u ∈ c.sink.uploads ∨ u.phase = .opening) :
    Announced c' := by
  intro u hu hphase
  rcases uploads u hu with hu | hopening
  · obtain ⟨taken, hmem⟩ := h u hu hphase
    exact ⟨taken, deeds hmem⟩
  · rw [hopening] at hphase
    exact absurd hphase (by simp)

theorem Announced.goUpload {before after uploads : List Upload} {u : Upload}
    {result : Upload × Destination × World} (h : Announced c)
    (among : c.sink.uploads = before ++ u :: after)
    (perm : uploads.Perm (result.1 :: (before ++ after))) (path : result.1.path = u.path)
    (taken : result.1.phase = .removing → u.phase = .removing ∨
      ∃ bytes, .delivered u.path bytes ∈ delivery u result.1 c.world) :
    Announced (c.goUpload u result uploads) := by
  have earlier : ∀ v ∈ c.sink.uploads, v.phase = .removing →
      ∃ taken, .delivered v.path taken ∈ (c.goUpload u result uploads).deeds := by
    intro v hv hphase
    obtain ⟨taken, hmem⟩ := h v hv hphase
    exact ⟨taken, List.mem_append_left _ hmem⟩
  intro v hv hphase
  rcases List.mem_cons.mp (perm.mem_iff.mp hv) with rfl | hv
  · rw [path]
    rcases taken hphase with hbefore | ⟨bytes, hmem⟩
    · exact earlier u (by simp [among]) hbefore
    · exact ⟨bytes, List.mem_append_right _ hmem⟩
  · exact earlier v (mem_of_among among hv) hphase

theorem Announced.append (h : Announced c) (record : Bytes) : Announced (c.append record) :=
  h.change (List.subset_append_left _ _) (opening_of_mem (.inl (append_uploads _ _ _)))

theorem Announced.rollOver (h : Announced c) : Announced c.rollOver :=
  h.change (List.subset_append_left _ _) (opening_of_mem (rollOver_uploads _ _))

theorem Announced.dispatchNext (h : Announced c) : Announced c.dispatchNext :=
  h.change (List.subset_append_left _ _) (opening_of_mem (dispatchNext_uploads _))

theorem Announced.step (h : Announced c) (step : Step outside deliveries c c') :
    Announced c' := by
  cases step with
  | output record =>
    rw [output_eq]
    split
    · split
      · exact h.rollOver.append record
      · exact h.rollOver
    · exact h.append record
  | rollOver => exact h.rollOver
  | tick =>
    rw [tick_eq]
    split
    · split
      · exact h.rollOver.dispatchNext
      · exact h.rollOver
    · exact h.dispatchNext
  | turn before u after among =>
    exact h.goUpload among List.perm_middle (turn_path u _ _) taken_of_turn
  | release before u after action among =>
    exact h.goUpload among List.perm_append_comm (release_path u action _ _) taken_of_release
  | handIn before u after result among =>
    exact h.change (List.Subset.refl _) fun v hv => .inl (mem_of_among among hv)
  | settle outcome rest =>
    refine h.change (List.subset_append_left _ _) fun v hv => .inl ?_
    rwa [Course.settle, (settleOutcome_sink { c.sink with outcomes := rest } outcome
      c.world).2.1] at hv
  | flag => exact h.change (List.Subset.refl _) fun v hv => .inl hv
  | close => exact h.change (List.Subset.refl _) fun v hv => .inl hv
  | outside => exact h.change (List.Subset.refl _) fun v hv => .inl hv

/-! ### Entries beside the live file -/

/-- What becomes of an entry beside the live file: it stays, or a file comes to where none was, or
its file has been delivered and goes. -/
inductive Fate (deeds : List Deed) (name : Name) (before after : Option Node) : Prop where
  | stays (same : after = before)
  | filled (id : Nat) (vacant : before = none ∨ ∃ link, before = some (.link link))
      (file : after = some (.file id))
  | gone (delivered : Gone deeds name) (none : after = none)

theorem Buffer.fate_append (h : Buffer dir name c) (record : Bytes) :
    (c.append record).world.disk.node? (dir ++ [other]) = c.world.disk.node? (dir ++ [other]) := by
  cases h.appends record with
  | failed s w faults sink disk course =>
    rw [course, disk]
    rfl
  | written s live w id faults sink remains node disk course =>
    rw [course, disk]
    rfl

theorem Buffer.fate_moved {target : Path} {w : World} (h : Buffer dir name c) (ne : other ≠ name)
    (moved : c.sink.live.putAway LiveFile.stampPattern c.world = .moved target w) :
    Fate c.deeds other (c.world.disk.node? (dir ++ [other])) (w.disk.node? (dir ++ [other])) := by
  obtain ⟨id, -, hnode⟩ := h.open_of_putAway (by simp [moved])
  obtain ⟨other', moves⟩ := LiveFile.putAway_moved h.site h.called hnode moved
  rw [moves.node? h.site hnode]
  rcases eq_or_ne other other' with rfl | hne
  · exact .filled id moves.free (if_pos rfl)
  · exact .stays (by rw [if_neg (by simpa using hne), if_neg (by simpa using ne)])

theorem Buffer.fate_rollOver (h : Buffer dir name c) (ne : other ≠ name) :
    Fate c.deeds other (c.world.disk.node? (dir ++ [other]))
      (c.rollOver.world.disk.node? (dir ++ [other])) := by
  cases h.rollsOver with
  | kept live w faults remains disk course =>
    rw [course, disk]
    exact .stays rfl
  | closed target w w' faults moved disk course =>
    rw [course, disk]
    exact h.fate_moved ne moved
  | rolled target w w' live s faults moved opened parent disk arrives course =>
    have hlookup : w'.disk.node? (dir ++ [other]) = w.disk.node? (dir ++ [other]) := by
      rw [disk, Disk.node?_faults, Disk.node?_putNewFile _ _ _ (by simp),
        if_neg (by simpa using ne)]
    rw [course, hlookup]
    exact h.fate_moved ne moved

theorem Buffer.fate_turn {before after : List Upload} {u : Upload} (h : Buffer dir name c)
    (announced : Announced c) (among : c.sink.uploads = before ++ u :: after)
    (delivers : ∀ {source stage}, u.phase = .delivering source stage →
      Hands c.sink.live.path dir name c.world (c.turn before u after).world) :
    Fate c.deeds other (c.world.disk.node? (dir ++ [other]))
      ((c.turn before u after).world.disk.node? (dir ++ [other])) := by
  have hu : u ∈ c.sink.uploads := by simp [among]
  have hworld : (c.turn before u after).world = (u.turn c.sink.destination c.world).2.2 := rfl
  cases h.turns hu with
  | idle phase w faults still needs reads stays disk turn =>
    rw [hworld, turn, disk]
    exact .stays rfl
  | delivering source stage hphase => exact .stays ((delivers hphase).entries other)
  | removed other' id w faults hphase placed disk turn =>
    have hlookup : w.disk.node? (dir ++ [other]) = if dir ++ [other] = dir ++ [other'] then none
        else c.world.disk.node? (dir ++ [other]) := by
      rw [disk, Disk.node?_faults, Disk.node?_take _ _ _ (by simp)]
    rw [hworld, turn, hlookup]
    rcases eq_or_ne other other' with rfl | hne
    · obtain ⟨taken, hmem⟩ := announced u hu hphase
      exact .gone ⟨u.path, taken, hmem, placed.fileName?⟩ (if_pos rfl)
    · exact .stays (if_neg (by simpa using hne))

/-- In a directory that is left to the sink an entry goes only after a delivery. -/
theorem Step.fate (h : Buffer dir name c) (announced : Announced c) (ne : other ≠ name)
    (houtside : ∀ {w w'}, outside w w' → Hands c.sink.live.path dir name w w')
    (hdeliveries : ∀ {w w'}, deliveries w w' → Hands c.sink.live.path dir name w w')
    (step : Step outside deliveries c c') :
    Fate c.deeds other (c.world.disk.node? (dir ++ [other]))
      (c'.world.disk.node? (dir ++ [other])) := by
  cases step with
  | output record =>
    rw [output_eq]
    split
    · split
      · rw [h.rollOver.fate_append]
        exact h.fate_rollOver ne
      · exact h.fate_rollOver ne
    · exact .stays (h.fate_append record)
  | rollOver => exact h.fate_rollOver ne
  | tick =>
    rw [tick_eq]
    split
    · split <;> exact h.fate_rollOver ne
    · exact .stays rfl
  | turn before u after among delivers =>
    exact h.fate_turn announced among fun hphase => hdeliveries (delivers hphase)
  | release before u after action among delivers =>
    exact .stays ((hdeliveries delivers).entries other)
  | settle outcome rest =>
    rw [Course.settle, (settleOutcome_sink { c.sink with outcomes := rest } outcome
      c.world).2.2.2.2]
    exact .stays rfl
  | close =>
    obtain ⟨faults, hdisk⟩ := c.sink.live.close_disk c.world
    rw [Course.close, hdisk]
    exact .stays rfl
  | flag => exact .stays rfl
  | handIn => exact .stays rfl
  | outside w acts => exact .stays ((houtside acts).entries other)

/-! ### Numbers that were passed over -/

/-- The rolled files of the marks and the names that were passed over for them. -/
structure Passed (dir : Location) (base : Name) (marks : List Mark) (c : Course) : Prop where
  announced : Announced c
  unlinked : ∀ {other : Name} {link : Path}, Follows base other →
    c.world.disk.node? (dir ++ [other]) ≠ some (.link link)
  /-- A name that was passed over is taken, or its file has been delivered. -/
  taken : ∀ m ∈ marks, ∀ k < m.number,
    c.world.disk.node? (dir ++ [{ m with number := k }.name base]) ≠ none ∨
      Gone c.deeds ({ m with number := k }.name base)
  /-- Within one second the numbers go up, unless a name is given again. -/
  later : marks.Pairwise fun m m' => m.second = m'.second →
    m.number < m'.number ∨ GivenAgain c.deeds (m'.name base)

/-- The rolled files of a course have marks, and what was passed over for them is known. -/
def Numbered (dir : Location) (base : Name) (c : Course) : Prop :=
  ∃ marks, Marked base marks c ∧ Passed dir base marks c

section Passed

variable {base : Name} {marks : List Mark}

/-- A name that is given now and is not above those of an earlier rollover in the same second has
been that of a file that was delivered. -/
theorem Passed.gone (h : Passed dir base marks c) (b : Buffer dir base c)
    (marked : Marked base marks c) {m m' : Mark} (hm : m ∈ marks)
    (given : m'.Given base c.sink.live c.world) (same : m.second = m'.second)
    (le : m'.number ≤ m.number) : Gone c.deeds (m'.name base) := by
  obtain ⟨w, moved⟩ := given.moved
  obtain ⟨id, -, hnode⟩ := b.open_of_putAway (by simp [moved])
  obtain ⟨other, moves⟩ := LiveFile.putAway_moved b.site b.called hnode moved
  obtain rfl : m'.name base = other := by
    have hbeside := Path.beside_withFileName b.site.only.endsIn b.site.only.plain
      ((m'.name_follows base).plain b.site.only.plain)
    exact hbeside.endsIn.unique moves.beside.endsIn
  have vacant : c.world.disk.node? (dir ++ [m'.name base]) = none := by
    rcases moves.free with hnone | ⟨link, hlink⟩
    · exact hnone
    · exact absurd hlink (h.unlinked (m'.name_follows base))
  rcases Nat.lt_or_eq_of_le le with hlt | heq
  · -- the earlier rollover has passed over this name
    have hpassed := h.taken m hm m'.number hlt
    have hmark : { m with number := m'.number } = m' := by rw [same]
    rw [hmark] at hpassed
    exact hpassed.resolve_left fun hne => hne vacant
  · -- the earlier rollover has given this name
    obtain rfl : m = m' := by
      cases m
      cases m'
      simp_all
    have hclosed : m.name base ∈ c.deeds.filterMap Deed.closedName? := by
      rw [marked.names]
      exact List.mem_map_of_mem hm
    obtain ⟨deed, hdeed, hclosed⟩ := List.mem_filterMap.mp hclosed
    obtain ⟨q, bytes, rfl, hname⟩ := Deed.exists_of_closedName? hclosed
    rcases standing_of_closed hdeed with hstanding | ⟨taken, hmem⟩
    · obtain ⟨other, id', placed, -⟩ := b.standing q bytes hstanding
      obtain rfl : m.name base = other := Option.some.inj (hname.symm.trans placed.fileName?)
      exact absurd placed.node (by simp [vacant])
    · exact ⟨q, taken, hmem, hname⟩

/-- A step that gives no name keeps what is known of the names. -/
theorem Passed.step_unmarked (h : Passed dir base marks c) (b : Buffer dir base c)
    (houtside : ∀ {w w'}, outside w w' → Hands c.sink.live.path dir base w w')
    (hdeliveries : ∀ {w w'}, deliveries w w' → Hands c.sink.live.path dir base w w')
    (step : Step outside deliveries c c') : Passed dir base marks c' := by
  obtain ⟨deeds, hdeeds, -⟩ := step.names
  have sublist : c.deeds.Sublist c'.deeds := hdeeds ▸ List.sublist_append_left _ _
  refine ⟨h.announced.step step, fun follows hlink => ?_, fun m hm k hk => ?_,
    h.later.imp fun hlater same => (hlater same).imp_right fun again => again.mono sublist⟩
  · cases step.fate b h.announced follows.ne.symm houtside hdeliveries with
    | stays same => exact h.unlinked follows (same ▸ hlink)
    | filled id vacant file => exact absurd (file.symm.trans hlink) (by simp)
    | gone delivered none => exact absurd (none.symm.trans hlink) (by simp)
  · have ne := (({ m with number := k } : Mark).name_follows base).ne.symm
    rcases h.taken m hm k hk with hnode | hgone
    · cases step.fate b h.announced ne houtside hdeliveries with
      | stays same => exact .inl (same ▸ hnode)
      | filled id vacant file => exact .inl (by simp [file])
      | gone delivered none => exact .inr (delivered.mono sublist.subset)
    · exact .inr (hgone.mono sublist.subset)

theorem Passed.step_marked {m : Mark} (h : Passed dir base marks c) (b : Buffer dir base c)
    (marked : Marked base marks c) (given : m.Given base c.sink.live c.world)
    (marked' : Marked base (marks ++ [m]) c')
    (houtside : ∀ {w w'}, outside w w' → Hands c.sink.live.path dir base w w')
    (hdeliveries : ∀ {w w'}, deliveries w w' → Hands c.sink.live.path dir base w w')
    (step : Step outside deliveries c c') : Passed dir base (marks ++ [m]) c' := by
  have hafter := h.step_unmarked b houtside hdeliveries step
  obtain ⟨deeds, hdeeds, -⟩ := step.names
  have hnamed : deeds.filterMap Deed.closedName? = [m.name base] := by
    have hnames := marked'.names
    rwa [hdeeds, List.filterMap_append, marked.names, List.map_append,
      List.append_cancel_left_eq] at hnames
  refine ⟨hafter.announced, hafter.unlinked, fun m' hm' k hk => ?_, ?_⟩
  · rcases List.mem_append.mp hm' with hm' | hm'
    · exact hafter.taken m' hm' k hk
    obtain rfl := List.mem_singleton.mp hm'
    have follows := ({ m' with number := k } : Mark).name_follows base
    have hnode : c.world.disk.node? (dir ++ [{ m' with number := k }.name base]) ≠ none := by
      have plain := follows.plain b.site.only.plain
      exact (b.site.beside (Path.beside_withFileName b.site.only.endsIn b.site.only.plain plain)
        plain).exists_node (given.taken k hk)
    cases step.fate b h.announced follows.ne.symm houtside hdeliveries with
    | stays same => exact .inl (same ▸ hnode)
    | filled id vacant file => exact .inl (by simp [file])
    | gone delivered none =>
      exact .inr (delivered.mono (hdeeds ▸ List.subset_append_left _ _))
  · rw [List.pairwise_append]
    refine ⟨hafter.later, List.pairwise_singleton _ _, fun m' hm' last hlast same => ?_⟩
    obtain rfl := List.mem_singleton.mp hlast
    refine (Nat.lt_or_ge m'.number last.number).imp_right fun le => ?_
    rw [hdeeds]
    exact (h.gone b marked hm' given same le).again hnamed

theorem Numbered.step {settings : Settings} (h : Numbered dir settings.baseName c)
    (b : Buffer dir settings.baseName c)
    (path : c.sink.live.path = settings.bufferDir.join settings.baseName)
    (onward : ∀ {w w'}, outside w w' → Onward w w')
    (houtside : ∀ {w w'}, outside w w' → Hands c.sink.live.path dir settings.baseName w w')
    (hdeliveries : ∀ {w w'}, deliveries w w' → Hands c.sink.live.path dir settings.baseName w w')
    (step : Step outside deliveries c c') : Numbered dir settings.baseName c' := by
  obtain ⟨marks, marked, passed⟩ := h
  rcases marked.step path b.called b.site.only.plain onward step with
    marked' | ⟨m, given, marked'⟩
  · exact ⟨marks, marked', passed.step_unmarked b houtside hdeliveries step⟩
  · exact ⟨marks ++ [m], marked',
      passed.step_marked b marked given marked' houtside hdeliveries step⟩

end Passed

end Course

end Outbox
