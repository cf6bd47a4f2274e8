import Mathlib.Data.List.Dedup
import Outbox.Proofs.Sink.Leftovers
import Outbox.Proofs.Sink.Numbers

/-!
# The order of rolled files

A sink that starts with rolled files in its buffer directory queues them as they are listed, which
is meant to be the order in which they were rolled over. For files of different seconds the names
are in that order. For files of one second that depends on what stands behind the stamp
(`rolled_ascending_iff`): the numbers have no leading zeros, so that the tenth comes before the
second (`rolled_past_nine`), and a rollover may give a name again that an upload has freed, before
that of a file that is still there (`rolled_again`).
-/

set_option autoImplicit false

namespace Outbox

open LiveFile (InYears)

/-- The names of the rolled files of a course that are files of a directory, in the order in which
they were rolled over. -/
def rolledThere (deeds : List Deed) (dir : Location) (d : Disk) : List Name :=
  (deeds.filterMap Deed.closedName?).dedup.filter fun name => (d.fileAt? (dir ++ [name])).isSome

/-- Names in the order of their bytes. -/
def Ascending (names : List Name) : Prop :=
  names.Pairwise Text.Before

instance : DecidablePred Ascending :=
  fun names => inferInstanceAs (Decidable (names.Pairwise Text.Before))

/-! ### Listings -/

section Listing

variable {d : Disk} {dir : Location} {settings : Settings}

theorem Disk.ascending_listed (sound : d.Sound) (byName : d.listing = .byName)
    (kept : Name × Node → Bool) :
    Ascending (((d.inListingOrder (d.children dir)).filter kept).map Prod.fst) := by
  have hperm := d.inListingOrder_perm (d.children dir)
  have sorted : (d.inListingOrder (d.children dir)).Pairwise fun a b =>
      Text.atMost a.1 b.1 = true := by
    rw [inListingOrder, byName]
    exact @List.pairwise_mergeSort (Name × Node) (fun a b => Text.atMost a.1 b.1)
      (fun _ _ _ => Text.atMost_trans) (fun a b => Text.atMost_total a.1 b.1) _
  have once : (d.inListingOrder (d.children dir)).Pairwise fun a b => a.1 ≠ b.1 := by
    have hnodup := (hperm.map Prod.fst).nodup_iff.mpr (Disk.nodup_children sound)
    exact List.pairwise_map.mp hnodup
  rw [Ascending, List.pairwise_map]
  exact ((sorted.and once).imp fun h => Text.before_iff.mpr h).sublist List.filter_sublist

theorem ascending_iff_filter {listed names : List Name} (ascending : Ascending listed)
    (once : names.Nodup) (among : names ⊆ listed) :
    listed.filter (fun name => name ∈ names) = names ↔ Ascending names := by
  have hlisted : Ascending (listed.filter fun name => name ∈ names) :=
    ascending.sublist List.filter_sublist
  constructor
  · intro h
    rwa [h] at hlisted
  · intro h
    have hnodup : (listed.filter fun name => name ∈ names).Nodup :=
      hlisted.imp fun hbefore => (Text.before_iff.mp hbefore).2
    refine List.Perm.eq_of_pairwise (fun a b _ _ hab hba => absurd hba hab.asymm) hlisted h ?_
    rw [List.perm_ext_iff_of_nodup hnodup once]
    intro name
    simp only [List.mem_filter, decide_eq_true_eq]
    exact ⟨And.right, fun hmem => ⟨among hmem, hmem⟩⟩

theorem Settings.names_rolledFiles (sound : d.Sound) :
    (settings.rolledFiles dir d).filterMap Path.fileName?
      = ((d.inListingOrder (d.children dir)).filter
          (Leftovers.isRolled settings.baseName)).map Prod.fst := by
  rw [rolledFiles, List.filterMap_map, ← List.filterMap_eq_map]
  refine List.filterMap_congr fun entry hmem => ?_
  obtain ⟨hmem, hrolled⟩ := List.mem_filter.mp hmem
  obtain ⟨id, -, plain, -⟩ := Leftovers.node_of_isRolled sound
    ((d.inListingOrder_perm _).mem_iff.mp hmem) hrolled
  exact (Path.endsIn_join settings.bufferDir plain.no_slash).fileName? plain

end Listing

/-- A sink that starts without faults and finds its directory queues what that lists, as the disk
did before. -/
theorem Sink.pending_of_start {settings : Settings} {destination : Option Destination} {s : Sink}
    {w w' : World} {dir : Location} (h : start settings destination w = (.ok s, w'))
    (sound : w.disk.Sound) (calm : w.disk.faults = []) (entry : settings.bufferDir.chars ≠ [])
    (leads : w'.disk.dirOf? settings.bufferDir = some dir) :
    w'.disk.Sound ∧ w'.disk.listing = w.disk.listing ∧
      s.pending = settings.rolledFiles dir w'.disk := by
  obtain ⟨b, b', w₁, w₂, -, hconfigure, hprepare, -, hopen⟩ := start_ok h
  have calm₂ := calm_of_prepareBuffer hprepare
    (Destination.calm_of_configure hconfigure ⟨calm, rfl⟩)
  obtain ⟨-, hsound, -⟩ := prepareBuffer_ok hprepare
  have sound' := (opened_of_openLive hopen).sound
    (hsound ((Destination.grows_of_configure hconfigure).sound sound))
  have hpending := (pending_of_openLive hopen calm₂ leads).2
  rw [if_neg entry] at hpending
  exact ⟨sound', listing_of_openLive hopen calm₂, hpending⟩

/-! ### Courses -/

namespace Course

variable {settings : Settings} {destination : Option Destination} {s : Sink} {w₀ w : World}
  {c : Course} {outside deliveries : World → World → Prop} {dir : Location} {d : Disk}

/-- The buffer directory is left to the sink: its live file is a regular file, no link has the name
of a rolled file, and neither others nor deliveries touch what is in it. -/
structure Sole (settings : Settings) (dir : Location) (w₀ : World) (s : Sink) (w : World)
    (outside deliveries : World → World → Prop) : Prop where
  sound : w₀.disk.Sound
  leads : w.disk.dirOf? settings.bufferDir = some dir
  regular : ∃ id, w.disk.node? (dir ++ [settings.baseName]) = some (.file id)
  unlinked : ∀ {other : Name} {link : Path}, Follows settings.baseName other →
    w.disk.node? (dir ++ [other]) ≠ some (.link link)
  outside : ∀ {w w' : World}, outside w w' → Hands s.live.path dir settings.baseName w w'
  deliveries : ∀ {w w' : World}, deliveries w w' → Hands s.live.path dir settings.baseName w w'

theorem marked_nil (years : InYears w.wall.seconds) :
    Marked settings.baseName [] { sink := s, world := w, deeds := [] } :=
  ⟨rfl, .nil, by simp, by simp, years⟩

theorem Sole.numbered (sole : Sole settings dir w₀ s w outside deliveries)
    (start : Sink.start settings destination w₀ = (.ok s, w)) (plain : Plain settings.baseName)
    (years : InYears w.wall.seconds) (onward : ∀ {w w'}, outside w w' → Onward w w')
    (reached : Reached outside deliveries { sink := s, world := w, deeds := [] } c) :
    Numbered dir settings.baseName c := by
  obtain ⟨b, -, -, -, rfl, -⟩ := Sink.start_ok start
  obtain ⟨id, regular⟩ := sole.regular
  have begun := begun_of_regular start sole.sound plain sole.leads regular
  obtain ⟨path, -, huploads⟩ := begun.path
  have hstart : Numbered dir settings.baseName { sink := s, world := w, deeds := [] } := by
    refine ⟨[], marked_nil years, fun u hu => ?_, sole.unlinked, by simp, .nil⟩
    exact absurd hu (by simp [huploads])
  refine (begun.buffer.along rfl sole.outside sole.deliveries hstart
    (fun buffer hlive known step => ?_) reached).2.1
  refine known.step buffer (hlive.trans path) onward ?_ ?_ step <;> rw [hlive]
  · exact sole.outside
  · exact sole.deliveries

theorem rolledThere_sublist (deeds : List Deed) (dir : Location) (d : Disk) :
    (rolledThere deeds dir d).Sublist (deeds.filterMap Deed.closedName?) :=
  List.filter_sublist.trans (List.dedup_sublist _)

theorem tails_of_later {marks : List Mark} {again : Mark → Prop}
    (later : marks.Pairwise fun m m' => m.second = m'.second → m.number < m'.number ∨ again m')
    (few : ∀ m ∈ marks, m.number < 10 ∧ ¬ again m) :
    marks.Pairwise fun m m' => m.second = m'.second → Text.Before m.tail m'.tail := by
  refine later.imp_of_mem fun {m m'} _ hm' hlater same => ?_
  obtain ⟨bound, hagain⟩ := few m' hm'
  exact Mark.before_tail ((hlater same).resolve_right hagain) bound

theorem Marked.ascending_iff {marks : List Mark} (marked : Marked settings.baseName marks c)
    {there : List Mark} (sublist : there.Sublist marks) :
    Ascending (there.map (Mark.name settings.baseName)) ↔
      there.Pairwise fun m m' => m.second = m'.second → Text.Before m.tail m'.tail := by
  have ordered := marked.ordered.sublist sublist
  rw [Ascending, List.pairwise_map]
  constructor
  · intro h
    refine (ordered.and h).imp_of_mem fun hm hm' ⟨le, before⟩ => ?_
    exact (Mark.before_name_iff _ (marked.years _ (sublist.subset hm))
      (marked.years _ (sublist.subset hm')) le).mp before
  · intro h
    refine (ordered.and h).imp_of_mem fun hm hm' ⟨le, tails⟩ => ?_
    exact (Mark.before_name_iff _ (marked.years _ (sublist.subset hm))
      (marked.years _ (sublist.subset hm')) le).mpr tails

/-- The names of rolled files are in the order in which they were rolled over if and only if those
of one second are in the order of what stands behind their stamps. In a directory of its own that
is so as long as no number has two digits and no name is given again. And it is just then that a
sink which starts later, on a disk that lists by name, queues them in the order in which they were
rolled over. -/
theorem rolled_ascending_iff (start : Sink.start settings destination w₀ = (.ok s, w))
    (named : Config.isPlainName settings.baseName = true) (years : InYears w.wall.seconds)
    (onward : ∀ {w w'}, outside w w' → Onward w w')
    (reached : Reached outside deliveries { sink := s, world := w, deeds := [] } c)
    (dir : Location) (d : Disk) :
    ∃ marks : List Mark,
      rolledThere c.deeds dir d = marks.map (Mark.name settings.baseName) ∧
      (marks.Pairwise fun m m' => m.second ≤ m'.second) ∧ (∀ m ∈ marks, InYears m.second) ∧
      (Ascending (rolledThere c.deeds dir d) ↔
        marks.Pairwise fun m m' => m.second = m'.second → Text.Before m.tail m'.tail) ∧
      (Sole settings dir w₀ s w outside deliveries →
        (∀ m ∈ marks, m.number < 10 ∧ ¬ GivenAgain c.deeds (m.name settings.baseName)) →
        Ascending (rolledThere c.deeds dir d)) ∧
      ∀ destination' s' w' w'', Sink.start settings destination' w' = (.ok s', w'') →
        w'.disk.Sound → w'.disk.faults = [] → w'.disk.listing = .byName →
        settings.bufferDir.chars ≠ [] → w''.disk = d → d.dirOf? settings.bufferDir = some dir →
        ((s'.pending.filterMap Path.fileName?).filter
            (fun name => name ∈ rolledThere c.deeds dir d) = rolledThere c.deeds dir d ↔
          Ascending (rolledThere c.deeds dir d)) := by
  have plain := Config.plain_of_isPlainName named
  obtain ⟨path, called⟩ := Sink.live_of_start start plain
  obtain ⟨marks, marked, passed⟩ : ∃ marks, Marked settings.baseName marks c ∧
      (Sole settings dir w₀ s w outside deliveries → Passed dir settings.baseName marks c) := by
    by_cases sole : Sole settings dir w₀ s w outside deliveries
    · obtain ⟨marks, marked, passed⟩ := sole.numbered start plain years onward reached
      exact ⟨marks, marked, fun _ => passed⟩
    · obtain ⟨marks, marked⟩ := (marked_nil years).reached path called plain onward reached
      exact ⟨marks, marked, fun h => absurd h sole⟩
  have hthere := rolledThere_sublist c.deeds dir d
  rw [marked.names] at hthere
  obtain ⟨there, sublist, heq⟩ := List.sublist_map_iff.mp hthere
  refine ⟨there, heq, marked.ordered.sublist sublist,
    fun m hm => marked.years m (sublist.subset hm), ?_, fun sole few => ?_, ?_⟩
  · rw [heq]
    exact marked.ascending_iff sublist
  · rw [heq]
    exact (marked.ascending_iff sublist).mpr
      (tails_of_later ((passed sole).later.sublist sublist) few)
  · rintro destination' s' w' w'' later sound calm byName entry rfl leads
    obtain ⟨sound', listing, hpending⟩ := Sink.pending_of_start later sound calm entry leads
    rw [hpending, Settings.names_rolledFiles sound']
    refine ascending_iff_filter (Disk.ascending_listed sound' (listing.trans byName) _)
      ((List.nodup_dedup _).filter _) fun name hname => ?_
    obtain ⟨m, hm, rfl⟩ : ∃ m ∈ there, Mark.name settings.baseName m = name := by
      rw [heq] at hname
      exact List.mem_map.mp hname
    obtain ⟨bytes, hfile⟩ := Option.isSome_iff_exists.mp (List.mem_filter.mp hname).2
    obtain ⟨id, hnode, -⟩ := Disk.node_of_fileAt? hfile
    have hmem := Disk.mem_children_of_mem (Disk.mem_of_node? hnode (by simp))
    have follows := m.name_follows settings.baseName
    refine List.mem_map.mpr
      ⟨(m.name settings.baseName, .file id), List.mem_filter.mpr ⟨?_, ?_⟩, rfl⟩
    · exact (w''.disk.inListingOrder_perm _).mem_iff.mpr hmem
    · exact Leftovers.isRolled_iff.mpr ⟨⟨id, rfl⟩, follows.front, follows.ne⟩

/-! ### Single runs -/

theorem number_lt_ten (base : Name) {m : Mark} (years : InYears m.second)
    (short : (m.name base).length ≤ base.length + 22) : m.number < 10 := by
  rw [Mark.name_eq, List.length_append, List.length_cons, List.length_append,
    LiveFile.length_stampAt years] at short
  obtain ⟨second, n⟩ := m
  cases n with
  | zero => exact Nat.zero_lt_succ 9
  | succ n =>
    rw [Mark.tail, List.length_cons] at short
    have hdigits : (Digits.decimal (n + 1)).length ≤ 1 := by omega
    exact (Nat.length_toDigits_le_iff (by decide) (by decide)).mp hdigits

/-- Short names have small numbers, and as long as nothing has been delivered no name is given
again. -/
theorem few_of_short {base : Name} {marks : List Mark}
    (there : rolledThere c.deeds dir d = marks.map (Mark.name base))
    (years : ∀ m ∈ marks, InYears m.second)
    (short : ∀ name ∈ c.deeds.filterMap Deed.closedName?, name.length ≤ base.length + 22)
    (undelivered : c.delivered = []) :
    ∀ m ∈ marks, m.number < 10 ∧ ¬ GivenAgain c.deeds (m.name base) := by
  intro m hm
  have hname : m.name base ∈ rolledThere c.deeds dir d := by
    rw [there]
    exact List.mem_map_of_mem hm
  refine ⟨number_lt_ten base (years m hm)
    (short _ ((rolledThere_sublist _ dir d).subset hname)), ?_⟩
  rintro ⟨p, taken, q, bytes, sublist, -⟩
  have hmem := mem_delivered (sublist.subset List.mem_cons_self)
  rw [undelivered] at hmem
  exact List.not_mem_nil hmem

theorem sole_of_clean {b : Destination} {id : Nat}
    (start : Sink.start settings (some b) w₀ = (.ok s, w)) (sound : w₀.disk.Sound)
    (plain : Plain settings.baseName) (leads : w.disk.dirOf? settings.bufferDir = some dir)
    (clean : Clean dir settings.baseName w.disk)
    (regular : w.disk.node? (dir ++ [settings.baseName]) = some (.file id)) :
    Sole settings dir w₀ s w (fun w w' => settings.Aloof b dir w w' ∧ Onward w w')
      fun _ _ => False := by
  have begun := begun_of_start start sound plain leads clean
  refine ⟨sound, leads, ⟨id, regular⟩, fun follows hlink => ?_, fun acts => ?_, False.elim⟩
  · exact clean.linkless follows _ hlink
  · rw [begun.path.1]
    exact acts.1.1

theorem rolledThere_spared {base : Name} {deeds : List Deed} {d' : Disk}
    (spared : Spared dir base d d') (apart : ∀ name ∈ deeds.filterMap Deed.closedName?,
      name ≠ base ∧ name ≠ Sink.writeCheckName) :
    rolledThere deeds dir d' = rolledThere deeds dir d := by
  refine List.filter_congr fun name hname => ?_
  obtain ⟨ne, ne_check⟩ := apart name (List.mem_dedup.mp hname)
  rw [spared.files ne ne_check]

theorem start_later {b : Destination} (left : Left settings b dir c.world.disk)
    (named : settings.Named) (calm : c.world.disk.faults = [])
    (readable : c.world.wall.isReadable = true)
    (apart : ∀ name ∈ c.deeds.filterMap Deed.closedName?,
      name ≠ settings.baseName ∧ name ≠ Sink.writeCheckName) :
    ∃ s' w', Sink.start settings (some b) c.world = (.ok s', w') ∧
      w'.disk.dirOf? settings.bufferDir = some dir ∧
      rolledThere c.deeds dir w'.disk = rolledThere c.deeds dir c.world.disk := by
  obtain ⟨s', w', start, -⟩ := left.start_calm named calm readable
  have spared := left.start_spared named
  rw [start] at spared
  exact ⟨s', w', start, (left.spared spared).leads, rolledThere_spared spared apart⟩

def buffered : Settings :=
  { Settings.default with connection := "buf:remote".toList }

/-- A sink that has started and rolled over twice, a record each. -/
def rolledTwice (s : Sink) (w : World) : Course :=
  ((({ sink := s, world := w, deeds := [] } : Course).output [97]).rollOver.output [98]).rollOver

theorem Reached.rolledTwice (s : Sink) (w : World) :
    Reached outside deliveries { sink := s, world := w, deeds := [] } (rolledTwice s w) :=
  .step (.step (.step (.step .start (.output _ [97])) (.rollOver _)) (.output _ [98])) (.rollOver _)

/-- The wall clock goes on by a second, and the sink rolls over again. -/
def rolledLater (c : Course) : Course :=
  ({ c with world := { c.world with wall := ⟨1, 0⟩ } }.output [99]).rollOver

theorem Reached.rolledLater {c₀ : Course} (reached : Reached outside deliveries c₀ c)
    (sets : outside c.world { c.world with wall := ⟨1, 0⟩ }) :
    Reached outside deliveries c₀ c.rolledLater :=
  .step (.step (.step reached (.outside _ _ sets)) (.output _ [99])) (.rollOver _)

/-- Three files of two seconds that are all still there when a sink starts again. -/
theorem rolled_in_order :
    ∃ s w c s' w', Sink.start buffered (some (.scripted (.ofScript [] none))) (.fresh ['w'])
        = (.ok s, w) ∧ c = (rolledTwice s w).rolledLater ∧
      Sink.start buffered (some (.scripted (.ofScript [] none))) c.world = (.ok s', w') ∧
      rolledThere c.deeds [['w'], "buf".toList] w'.disk
        = ["event-bundle.1970-01-01T00:00:00".toList,
          "event-bundle.1970-01-01T00:00:00.1".toList,
          "event-bundle.1970-01-01T00:00:01".toList] ∧
      Ascending (rolledThere c.deeds [['w'], "buf".toList] w'.disk) ∧
      (s'.pending.filterMap Path.fileName?).filter
          (fun name => name ∈ rolledThere c.deeds [['w'], "buf".toList] w'.disk)
        = rolledThere c.deeds [['w'], "buf".toList] w'.disk := by
  let b : Destination := .scripted (.ofScript [] none)
  let dir : Location := [['w'], "buf".toList]
  have hcheck : Sink.passes (Sink.start buffered (some b) (.fresh ['w'])) (fun s w =>
      let c := (rolledTwice s w).rolledLater
      decide (InYears w.wall.seconds) && decide (w.disk.dirOf? buffered.bufferDir = some dir) &&
        decide (w.disk.node? (dir ++ [buffered.baseName]) = some (.file 1)) &&
        holdsLiveOnly dir buffered.baseName w.disk &&
        decide ((rolledTwice s w).world.wall.seconds ≤ 1) && decide (c.world.disk.faults = []) &&
        decide (c.world.disk.listing = .byName) && c.world.wall.isReadable &&
        decide (rolledThere c.deeds dir c.world.disk
          = ["event-bundle.1970-01-01T00:00:00".toList,
            "event-bundle.1970-01-01T00:00:00.1".toList,
            "event-bundle.1970-01-01T00:00:01".toList]) &&
        decide (∀ name ∈ c.deeds.filterMap Deed.closedName?,
          name ≠ buffered.baseName ∧ name ≠ Sink.writeCheckName) &&
        decide (∀ name ∈ c.deeds.filterMap Deed.closedName?,
          name.length ≤ buffered.baseName.length + 22) &&
        decide (c.delivered = [])) = true := by
    decide +kernel
  obtain ⟨s, w, start, hcheck⟩ := Sink.exists_of_passes hcheck
  simp only [Bool.and_eq_true, decide_eq_true_eq] at hcheck
  obtain ⟨⟨⟨⟨⟨⟨⟨⟨⟨⟨⟨years, leads⟩, regular⟩, hlive⟩, past⟩, calm⟩, byName⟩, readable⟩, hthere⟩,
    apart⟩, short⟩, undelivered⟩ := hcheck
  have overt : Overt buffered.baseName := Config.overt_of_isPlainName (by decide)
  have clean := clean_of_holdsLiveOnly hlive
  obtain ⟨named, left⟩ := left_of_start start World.fresh_sound (by decide) overt
    (Destination.grounded_ofScript [] _) leads clean
  have begun := begun_of_start start World.fresh_sound overt.plain leads clean
  -- the clock is set while the files stay as they are
  have aloof : buffered.Aloof b dir (rolledTwice s w).world
      { (rolledTwice s w).world with wall := ⟨1, 0⟩ } :=
    (left.reached begun (Reached.rolledTwice s w)).aloof named (rolledTwice s w).world.disk.faults
  have left' := left.reached begun ((Reached.rolledTwice s w).rolledLater aloof)
  obtain ⟨s', w', start', leads', hsame⟩ := start_later left' named calm readable apart
  have sole := sole_of_clean start World.fresh_sound overt.plain leads clean regular
  have reached : Reached (fun w w' => buffered.Aloof b dir w w' ∧ Onward w w')
      (fun _ _ => False) _ _ :=
    (Reached.rolledTwice s w).rolledLater ⟨aloof, past, (by decide : InYears 1)⟩
  obtain ⟨marks, hmarks, -, hyears, -, hsole, hqueue⟩ := rolled_ascending_iff start (by decide)
    years And.right reached dir w'.disk
  have ascending := hsole sole (few_of_short hmarks hyears short undelivered)
  refine ⟨s, w, _, s', w', start, rfl, start', hsame.trans hthere, ascending, ?_⟩
  exact (hqueue (some b) s' _ w' start' left'.sound calm byName (by decide) rfl leads').mpr
    ascending

/-- A start, two rollovers within one second, the first file uploaded, and another rollover. -/
theorem rolled_again :
    ∃ s w c, Sink.start buffered (some (.scripted (.ofScript [] none))) (.fresh ['w'])
        = (.ok s, w) ∧ InYears w.wall.seconds ∧
      Reached (fun _ _ => False) Unchanged { sink := s, world := w, deeds := [] } c ∧
      rolledThere c.deeds [['w'], "buf".toList] c.world.disk
        = ["event-bundle.1970-01-01T00:00:00.1".toList,
          "event-bundle.1970-01-01T00:00:00".toList] ∧
      ¬ Ascending (rolledThere c.deeds [['w'], "buf".toList] c.world.disk) := by
  have hcheck : Sink.passes (Sink.start buffered (some (.scripted (.ofScript [] none)))
      (.fresh ['w'])) (fun s w =>
        let c := rolledTwice s w
        decide (InYears w.wall.seconds) && c.quietAt 0 && (c.turnAt 0).quietAt 0 &&
          ((c.turnAt 0).turnAt 0).quietAt 0 &&
          (let c := ((((c.turnAt 0).turnAt 0).turnAt 0).output [99]).rollOver
          decide (rolledThere c.deeds [['w'], "buf".toList] c.world.disk
            = ["event-bundle.1970-01-01T00:00:00.1".toList,
              "event-bundle.1970-01-01T00:00:00".toList]))) = true := by
    decide +kernel
  obtain ⟨s, w, start, hcheck⟩ := Sink.exists_of_passes hcheck
  simp only [Bool.and_eq_true, decide_eq_true_eq] at hcheck
  obtain ⟨⟨⟨⟨years, hopening⟩, hdelivering⟩, hremoving⟩, hthere⟩ := hcheck
  have uploaded : Reached (fun _ _ => False) Unchanged _ _ :=
    (((Reached.rolledTwice s w).turnAt_of_quiet hopening).turnAt_of_quiet
      hdelivering).turnAt_of_quiet hremoving
  refine ⟨s, w, _, start, years, .step (.step uploaded (.output _ [99])) (.rollOver _), hthere, ?_⟩
  rw [hthere]
  decide +kernel

def rollOvers : Nat → Course → Course
  | 0, c => c
  | n + 1, c => (rollOvers n c).rollOver

theorem Reached.rollOvers {c₀ : Course} (reached : Reached outside deliveries c₀ c) (n : Nat) :
    Reached outside deliveries c₀ (c.rollOvers n) := by
  induction n with
  | zero => exact reached
  | succ n ih => exact .step ih (.rollOver _)

/-- Eleven rollovers within one second: the last name is the one with the number ten. -/
theorem rolled_past_nine :
    ∃ s w c, Sink.start buffered (some (.scripted (.ofScript [] none))) (.fresh ['w'])
        = (.ok s, w) ∧ InYears w.wall.seconds ∧
      Reached (fun _ _ => False) (fun _ _ => False) { sink := s, world := w, deeds := [] } c ∧
      (rolledThere c.deeds [['w'], "buf".toList] c.world.disk).length = 11 ∧
      ¬ Ascending (rolledThere c.deeds [['w'], "buf".toList] c.world.disk) := by
  have hcheck : Sink.passes (Sink.start buffered (some (.scripted (.ofScript [] none)))
      (.fresh ['w'])) (fun s w =>
        let c := (Course.mk s w []).rollOvers 11
        decide (InYears w.wall.seconds) &&
        decide ((rolledThere c.deeds [['w'], "buf".toList] c.world.disk).length = 11) &&
        decide (¬ Ascending (rolledThere c.deeds [['w'], "buf".toList] c.world.disk))) = true := by
    decide +kernel
  obtain ⟨s, w, start, hcheck⟩ := Sink.exists_of_passes hcheck
  simp only [Bool.and_eq_true, decide_eq_true_eq] at hcheck
  obtain ⟨⟨years, hlength⟩, hascending⟩ := hcheck
  exact ⟨s, w, _, start, years, Reached.start.rollOvers 11, hlength, hascending⟩

end Course

end Outbox
