import Outbox.Proofs.Disk.Existing
import Outbox.Proofs.Sink.Apart

/-!
# The files of a sink

A sink gives its files in the buffer directory names of its own: the live file has the one that is
configured, rolled files go on after it, and one more is for trying the directory. As long as there
are no other files there, it stays so: a step changes nothing but files of the sink's own, which are
on no way to a directory (`Buffer.clean_step`).
-/

set_option autoImplicit false

namespace Outbox

/-- A name of a live file that is not hidden. -/
structure Overt (base : Name) : Prop where
  plain : Plain base
  head : base.head? ≠ some '.'

theorem Config.overt_of_isPlainName {name : Name} (h : isPlainName name = true) : Overt name := by
  refine ⟨plain_of_isPlainName h, ?_⟩
  simp only [isPlainName, Bool.and_eq_true, decide_eq_true_eq] at h
  exact h.2

/-- A name that a sink gives to a file in its buffer directory. -/
def Own (base other : Name) : Prop :=
  other = base ∨ other = Sink.writeCheckName ∨ Follows base other

section Names

variable {base other : Name}

theorem Follows.front (h : Follows base other) : base <+: other := by
  obtain ⟨tail, rfl, -⟩ := h
  exact List.prefix_append _ _

/-- The file that tries the directory is hidden, so its name is no live file's and no rolled
file's. -/
theorem Overt.not_front (overt : Overt base) : ¬ base <+: Sink.writeCheckName := by
  rintro ⟨rest, hrest⟩
  cases base with
  | nil => exact overt.plain.ne_nil rfl
  | cons c base =>
    have hhead : c = '.' := (List.cons.inj hrest).1
    exact overt.head (by rw [hhead]; rfl)

theorem Overt.ne_check (overt : Overt base) : base ≠ Sink.writeCheckName := by
  rintro rfl
  exact overt.not_front (List.prefix_refl _)

theorem Follows.ne_check (overt : Overt base) (h : Follows base other) :
    other ≠ Sink.writeCheckName := by
  rintro rfl
  exact overt.not_front h.front

theorem Own.plain (overt : Overt base) (h : Own base other) : Plain other := by
  rcases h with rfl | rfl | follows
  · exact overt.plain
  · exact plain_writeCheckName
  · exact follows.plain overt.plain

theorem Own.follows (h : Own base other) (ne : other ≠ base) (ne' : other ≠ Sink.writeCheckName) :
    Follows base other :=
  (h.resolve_left ne).resolve_left ne'

end Names

/-- A directory in which there are no files but those of a sink, and nothing stands in their way. -/
structure Clean (dir : Location) (base : Name) (d : Disk) : Prop where
  files : ∀ {other : Name} {id : Nat}, d.node? (dir ++ [other]) = some (.file id) → Own base other
  live : d.Filed (dir ++ [base])
  check : d.Filed (dir ++ [Sink.writeCheckName])
  linkless : ∀ {other : Name}, Follows base other → d.Linkless (dir ++ [other])

/-- Only files of the sink's own have changed. -/
structure Tended (dir : Location) (base : Name) (d d' : Disk) : Prop where
  start : d'.start = d.start
  nodes : ∀ loc, d'.node? loc = d.node? loc ∨
    ∃ other, loc = dir ++ [other] ∧ Own base other ∧ d.Filed loc ∧ d'.Filed loc

section Tended

variable {dir : Location} {base : Name} {d d' : Disk}

theorem tended_of_alters {places : Location → Prop} (alters : Disk.Alters places d d')
    (own : ∀ loc, places loc → ∃ other, loc = dir ++ [other] ∧ Own base other ∧ d.Filed loc ∧
      d'.Filed loc) : Tended dir base d d' := by
  refine ⟨alters.narrows.start, fun loc => ?_⟩
  by_cases hplace : places loc
  · exact .inr (own loc hplace)
  · exact .inl (alters.nodes hplace)

theorem tended_of_alters_name {other : Name} (alters : Disk.Alters (· = dir ++ [other]) d d')
    (own : Own base other) (filed : d.Filed (dir ++ [other])) (filed' : d'.Filed (dir ++ [other])) :
    Tended dir base d d' := by
  refine tended_of_alters alters ?_
  rintro loc rfl
  exact ⟨other, rfl, own, filed, filed'⟩

theorem tended_faults (d : Disk) (faults : List (Option OsError)) :
    Tended dir base d { d with faults } :=
  ⟨rfl, fun _ => .inl rfl⟩

theorem Tended.trans {d₁ d₂ d₃ : Disk} (h : Tended dir base d₁ d₂) (h' : Tended dir base d₂ d₃) :
    Tended dir base d₁ d₃ := by
  refine ⟨h'.start.trans h.start, fun loc => ?_⟩
  have filed : ∀ {a b : Disk}, b.node? loc = a.node? loc → a.Filed loc → b.Filed loc :=
    fun heq hfiled _ hnode => hfiled (heq ▸ hnode)
  rcases h.nodes loc with heq | ⟨other, hloc, own, hfiled₁, hfiled₂⟩
  · rcases h'.nodes loc with heq' | ⟨other, hloc, own, hfiled₂, hfiled₃⟩
    · exact .inl (heq'.trans heq)
    · exact .inr ⟨other, hloc, own, filed heq.symm hfiled₂, hfiled₃⟩
  · rcases h'.nodes loc with heq' | ⟨-, -, -, -, hfiled₃⟩
    · exact .inr ⟨other, hloc, own, hfiled₁, filed heq' hfiled₂⟩
    · exact .inr ⟨other, hloc, own, hfiled₁, hfiled₃⟩

/-- Files of the sink's own are on no way to a directory. -/
theorem Tended.carries (h : Tended dir base d d') : d.Carries d' := by
  refine Disk.Keeps.carries ⟨h.start, fun {loc} hnode => ?_, fun {loc target} hnode => ?_⟩
  · rcases h.nodes loc with heq | ⟨-, -, -, hfiled, -⟩
    · exact heq.trans hnode
    · obtain ⟨id, hid⟩ := hfiled hnode
      exact absurd hid (by simp)
  · rcases h.nodes loc with heq | ⟨-, -, -, hfiled, -⟩
    · exact heq.trans hnode
    · exact absurd hnode (hfiled.linkless target)

theorem Clean.of_tended (clean : Clean dir base d) (h : Tended dir base d d') :
    Clean dir base d' := by
  have filed : ∀ {other : Name}, d.Filed (dir ++ [other]) → d'.Filed (dir ++ [other]) := by
    intro other hfiled
    rcases h.nodes (dir ++ [other]) with heq | ⟨-, -, -, -, hfiled'⟩
    · exact fun hnode => hfiled (heq ▸ hnode)
    · exact hfiled'
  refine ⟨fun {other id} hnode => ?_, filed clean.live, filed clean.check, fun {other} follows => ?_⟩
  · rcases h.nodes (dir ++ [other]) with heq | ⟨other', hloc, own, -, -⟩
    · exact clean.files (heq ▸ hnode)
    · obtain rfl : other = other' := by simpa using hloc
      exact own
  · rcases h.nodes (dir ++ [other]) with heq | ⟨-, -, -, -, hfiled'⟩
    · intro target hnode
      exact clean.linkless follows target (heq ▸ hnode)
    · exact hfiled'.linkless

theorem Clean.of_entries (clean : Clean dir base d)
    (entries : ∀ other, d'.node? (dir ++ [other]) = d.node? (dir ++ [other])) :
    Clean dir base d' where
  files := fun hnode => clean.files ((entries _).symm.trans hnode)
  live := fun hnode => clean.live ((entries _).symm.trans hnode)
  check := fun hnode => clean.check ((entries _).symm.trans hnode)
  linkless := fun follows target hnode =>
    clean.linkless follows target ((entries _).symm.trans hnode)

end Tended

/-- Paths that lead to directories still lead to them. -/
def Disk.Upholds (ways : List Path) (d d' : Disk) : Prop :=
  ∀ p ∈ ways, ∀ loc, d.dirOf? p = some loc → d'.dirOf? p = some loc

section Upholds

variable {ways : List Path} {d d' : Disk}

theorem Disk.Carries.upholds (h : d.Carries d') : d.Upholds ways d' :=
  fun _ _ _ hloc => h.dirOf? hloc

theorem Disk.Upholds.trans {d'' : Disk} (h : d.Upholds ways d') (h' : d'.Upholds ways d'') :
    d.Upholds ways d'' :=
  fun p hp loc hloc => h' p hp loc (h p hp loc hloc)

end Upholds

/-- Others have left the buffer directory alone, and let some paths lead where they led. -/
def HandsOff (ways : List Path) (path : Path) (dir : Location) (base : Name) (w w' : World) :
    Prop :=
  Hands path dir base w w' ∧ w.disk.Upholds ways w'.disk

namespace Course

variable {ways : List Path} {dir : Location} {base : Name} {c c' : Course}

/-! ### Steps in a clean directory -/

theorem Buffer.tended_append (b : Buffer dir base c) (record : Bytes) :
    Tended dir base c.world.disk (c.append record).world.disk := by
  cases b.appends record with
  | failed s w faults sink disk course =>
    rw [course, disk]
    exact tended_faults _ faults
  | written s live w id faults sink remains node disk course =>
    have alters := Disk.alters_setContent (b.site.sound.withFaults faults) node
      (c.world.disk.content id ++ record)
    rw [course, disk]
    exact tended_of_alters_name alters.of_faults (.inl rfl) (Disk.filed_of_file node)
      (Disk.filed_of_file node)

/-- What the live file held goes to a name of the sink's own, where nothing was. -/
theorem Buffer.tended_moved {target : Path} {w : World} (b : Buffer dir base c)
    (clean : Clean dir base c.world.disk)
    (moved : c.sink.live.putAway LiveFile.stampPattern c.world = .moved target w) :
    Tended dir base c.world.disk w.disk := by
  obtain ⟨id, -, hnode⟩ := b.open_of_putAway (by simp [moved])
  obtain ⟨other, moves⟩ := LiveFile.putAway_moved b.site b.called hnode moved
  have lookup := moves.node? b.site hnode
  have alters := Disk.alters_move b.site.sound hnode (b.site.sound.parent hnode)
    (moves.follows.plain b.site.only.plain) moves.not_dir moves.ne
  have hfree : c.world.disk.node? (dir ++ [other]) = none := by
    refine moves.free.resolve_right ?_
    rintro ⟨link, hlink⟩
    exact clean.linkless moves.follows link hlink
  obtain ⟨faults, hdisk⟩ := moves.disk
  have alters := alters.withFaults faults
  rw [← hdisk] at alters
  refine tended_of_alters alters ?_
  rintro loc (rfl | rfl)
  · refine ⟨base, rfl, .inl rfl, Disk.filed_of_file hnode, Disk.filed_of_none ?_⟩
    rw [lookup, if_neg moves.ne, if_pos rfl]
  · have hmoved : w.disk.node? (dir ++ [other]) = some (.file id) := by
      rw [lookup, if_pos rfl]
    exact ⟨other, rfl, .inr (.inr moves.follows), Disk.filed_of_none hfree,
      Disk.filed_of_file hmoved⟩

theorem Buffer.tended_rollOver (b : Buffer dir base c) (clean : Clean dir base c.world.disk) :
    Tended dir base c.world.disk c.rollOver.world.disk := by
  cases b.rollsOver with
  | kept live w faults remains disk course =>
    rw [course, disk]
    exact tended_faults _ faults
  | closed target w w' faults moved disk course =>
    rw [course, disk]
    exact (b.tended_moved clean moved).trans (tended_faults w.disk faults)
  | rolled target w w' live s faults moved opened parent disk arrives course =>
    obtain ⟨-, -, -, hnone, -, -, hput⟩ := b.moved moved
    have made := Disk.alters_putNewFile hput.site.sound parent hput.site.only.plain hnone
    have hnode : (w.disk.putNewFile (dir ++ [base])).1.node? (dir ++ [base])
        = some (.file w.disk.contents.length) := by
      rw [Disk.node?_putNewFile _ _ _ (by simp), if_pos rfl]
    have opened := tended_of_alters_name made (.inl rfl) (Disk.filed_of_none hnone)
      (Disk.filed_of_file hnode)
    rw [course, disk]
    exact ((b.tended_moved clean moved).trans opened).trans (tended_faults _ faults)

/-- The directory stays clean, and the paths lead where they led. -/
theorem Buffer.clean_step {outside deliveries : World → World → Prop} (b : Buffer dir base c)
    (clean : Clean dir base c.world.disk)
    (houtside : ∀ {w w'}, outside w w' → HandsOff ways c.sink.live.path dir base w w')
    (hdeliveries : ∀ {w w'}, deliveries w w' → HandsOff ways c.sink.live.path dir base w w')
    (step : Step outside deliveries c c') :
    Clean dir base c'.world.disk ∧ c.world.disk.Upholds ways c'.world.disk := by
  have tended : ∀ {d : Disk}, Tended dir base c.world.disk d →
      Clean dir base d ∧ c.world.disk.Upholds ways d :=
    fun h => ⟨clean.of_tended h, h.carries.upholds⟩
  have aside : ∀ {w : World}, HandsOff ways c.sink.live.path dir base c.world w →
      Clean dir base w.disk ∧ c.world.disk.Upholds ways w.disk :=
    fun h => ⟨clean.of_entries h.1.entries, h.2⟩
  have same := tended (tended_faults c.world.disk c.world.disk.faults)
  have rolled := b.tended_rollOver clean
  cases step with
  | output record =>
    rw [output_eq]
    split
    · split
      · exact tended (rolled.trans (b.rollOver.tended_append record))
      · exact tended rolled
    · exact tended (b.tended_append record)
  | rollOver => exact tended rolled
  | tick =>
    rw [tick_eq]
    split
    · split <;> exact tended rolled
    · exact same
  | flag => exact same
  | turn before u after among delivers =>
    have hworld : (c.turn before u after).world = (u.turn c.sink.destination c.world).2.2 := rfl
    cases b.turns (by simp [among] : u ∈ c.sink.uploads) with
    | idle phase w faults still needs reads stays disk turn =>
      rw [hworld, turn, disk]
      exact tended (tended_faults _ faults)
    | delivering source stage hphase => exact aside (hdeliveries (delivers hphase))
    | removed other id w faults hphase placed disk turn =>
      have alters := Disk.alters_take b.site.sound placed.node (by simp)
      have hnone : (c.world.disk.take (dir ++ [other])).node? (dir ++ [other]) = none := by
        rw [Disk.node?_take _ _ _ (by simp), if_pos rfl]
      rw [hworld, turn, disk]
      exact tended ((tended_of_alters_name alters (clean.files placed.node)
        (Disk.filed_of_file placed.node) (Disk.filed_of_none hnone)).trans (tended_faults _ faults))
  | release before u after action among delivers => exact aside (hdeliveries delivers)
  | handIn => exact same
  | settle outcome rest first =>
    obtain ⟨-, -, -, -, hdisk⟩ :=
      settleOutcome_sink { c.sink with outcomes := rest } outcome c.world
    rw [Course.settle, hdisk]
    exact same
  | close =>
    obtain ⟨faults, hdisk⟩ := c.sink.live.close_disk c.world
    rw [Course.close, hdisk]
    exact tended (tended_faults _ faults)
  | outside w acts => exact aside (houtside acts)

theorem Buffer.clean_reached {path : Path} {c₀ : Course} (b : Buffer dir base c₀)
    (clean : Clean dir base c₀.world.disk) (hpath : c₀.sink.live.path = path)
    (reached : Reached (HandsOff ways path dir base) (HandsOff ways path dir base) c₀ c) :
    Buffer dir base c ∧ Clean dir base c.world.disk ∧ c₀.world.disk.Upholds ways c.world.disk := by
  have keeps : ∀ {c c' : Course}, Buffer dir base c → c.sink.live.path = path →
      Clean dir base c.world.disk ∧ c₀.world.disk.Upholds ways c.world.disk →
      Step (HandsOff ways path dir base) (HandsOff ways path dir base) c c' →
      Clean dir base c'.world.disk ∧ c₀.world.disk.Upholds ways c'.world.disk := by
    intro c c' hbuffer hlive hkept step
    subst hlive
    obtain ⟨hclean, hupholds⟩ := hkept
    obtain ⟨hclean', hupholds'⟩ := hbuffer.clean_step hclean id id step
    exact ⟨hclean', hupholds.trans hupholds'⟩
  obtain ⟨hbuffer, hkept, -⟩ :=
    b.along hpath And.left And.left ⟨clean, fun _ _ _ => id⟩ keeps reached
  exact ⟨hbuffer, hkept⟩

end Course

end Outbox
