import Mathlib.Logic.Function.Basic
import Mathlib.Logic.Relation
import Outbox.Proofs.Sink.Ownership

/-!
# Sinks with one buffer directory

Sinks that share a buffer directory tell their files by the names alone: a sink takes up the files
whose names go on after its base name. So it leaves the files of another sink alone, whatever the
sinks and others do, as long as its base name is not the beginning of the other one and does not go
on after the other one with a point (`neighbours_apart`). If it is the beginning of the other one, a
sink that starts takes the live file of its neighbour for a rolled file of its own
(`mem_scan_of_front`), uploads it and removes it (`neighbour_taken`).
-/

set_option autoImplicit false

namespace Outbox

/-- A rolled file of another base name begins with a base name only if that one is the beginning of
the other, or goes on after it with a point. -/
theorem Follows.not_front {base other name : Name} (h : Follows other name)
    (front : ¬ base <+: other) (dotted : ¬ other ++ ['.'] <+: base) : ¬ base <+: name := by
  obtain ⟨tail, rfl, -⟩ := h
  rw [← List.singleton_append, ← List.append_assoc]
  intro hfront
  rcases List.prefix_or_prefix_of_prefix hfront (List.prefix_append (other ++ ['.']) tail) with
    hshort | hlong
  · rcases List.prefix_concat_iff.mp hshort with rfl | hother
    · exact dotted (List.prefix_refl _)
    · exact front hother
  · exact dotted hlong

def Deed.closedName? : Deed → Option Name
  | .closed path _ => path.fileName?
  | _ => none

theorem Deed.exists_of_closedName? {deed : Deed} {name : Name} (h : deed.closedName? = some name) :
    ∃ path bytes, deed = .closed path bytes ∧ path.fileName? = some name := by
  cases deed with
  | closed path bytes => exact ⟨path, bytes, rfl, h⟩
  | _ => exact absurd h (by simp [closedName?])

/-- The files that a sink has queued, or has uploads or outcomes of. -/
def Sink.handled (s : Sink) : List Path :=
  s.pending ++ s.uploads.map Upload.path ++ s.outcomes.map Outcome.path

theorem Sink.live_of_start {settings : Settings} {destination : Option Destination} {s : Sink}
    {w w' : World} (h : start settings destination w = (.ok s, w'))
    (plain : Plain settings.baseName) :
    s.live.path = settings.bufferDir.join settings.baseName ∧
      s.live.counters.name = settings.baseName := by
  obtain ⟨_, b, _, w₂, -, -, -, -, hopen⟩ := start_ok h
  have opened := opened_of_openLive hopen
  have hname := opened.name
  rw [opened.path, (Path.endsIn_join settings.bufferDir plain.no_slash).fileName? plain,
    Option.some.injEq] at hname
  exact ⟨opened.path, hname.symm⟩

/-! ### One sink -/

namespace Course

variable {settings : Settings} {c c' : Course} {q : Path} {bytes : Bytes}

/-- A sink has come here from its start, whatever others did in the meantime. -/
def IsRun (settings : Settings) (c : Course) : Prop :=
  ∃ destination s w₀ w, w₀.disk.Sound ∧ Sink.start settings destination w₀ = (.ok s, w) ∧
    Reached (fun _ _ => True) (fun _ _ => True) { sink := s, world := w, deeds := [] } c

theorem IsRun.step (run : IsRun settings c)
    (step : Step (fun _ _ => True) (fun _ _ => True) c c') : IsRun settings c' := by
  obtain ⟨destination, s, w₀, w, sound, start, reached⟩ := run
  exact ⟨destination, s, w₀, w, sound, start, .step reached step⟩

theorem IsRun.live (run : IsRun settings c) (plain : Plain settings.baseName) :
    c.sink.live.path = settings.bufferDir.join settings.baseName ∧
      c.sink.live.counters.name = settings.baseName := by
  obtain ⟨destination, s, w₀, w, -, start, reached⟩ := run
  obtain ⟨path, name⟩ := Sink.live_of_start start plain
  exact ⟨reached.same.path.trans path, reached.same.name.trans name⟩

theorem fileName?_of_follows {live : LiveFile} {other : Name}
    (path : live.path = settings.bufferDir.join settings.baseName)
    (name : live.counters.name = settings.baseName) (plain : Plain settings.baseName)
    (follows : Follows live.counters.name other) :
    (live.path.withFileName other).fileName? = some other ∧ Follows settings.baseName other := by
  rw [name] at follows
  have endsIn := Path.endsIn_join settings.bufferDir plain.no_slash
  have beside := Path.beside_withFileName endsIn plain (follows.plain plain)
  rw [path]
  exact ⟨beside.endsIn.fileName? (follows.plain plain), follows⟩

theorem IsRun.closed (run : IsRun settings c) (plain : Plain settings.baseName)
    (step : Step (fun _ _ => True) (fun _ _ => True) { c with deeds := [] } c')
    (h : .closed q bytes ∈ c'.deeds) :
    ∃ other, q.fileName? = some other ∧ Follows settings.baseName other := by
  obtain ⟨path, name⟩ := run.live plain
  obtain ⟨other, follows, rfl⟩ := (step.closed h).resolve_left List.not_mem_nil
  exact ⟨other, fileName?_of_follows path name plain follows⟩

theorem front_of_start {destination : Option Destination} {s : Sink} {w₀ w : World}
    (start : Sink.start settings destination w₀ = (.ok s, w)) (sound : w₀.disk.Sound)
    (hq : q ∈ s.pending) : ∃ other, q.fileName? = some other ∧ settings.baseName <+: other := by
  obtain ⟨b, w₁, hopen, hsound⟩ := Sink.openLive_of_start start sound
  have opened := Sink.opened_of_openLive hopen
  have sound : w.disk.Sound := opened.sound hsound
  rcases opened.pending with hnone | hscan
  · rw [hnone] at hq
    exact absurd hq List.not_mem_nil
  · obtain ⟨-, loc, entries, -, hperm, hfound⟩ := Leftovers.scan_ok hscan
    rw [hfound] at hq
    obtain ⟨entry, hentry, rfl⟩ := List.mem_map.mp hq
    obtain ⟨hentry, hrolled⟩ := List.mem_filter.mp hentry
    obtain ⟨id, -, plain, front, -⟩ :=
      Leftovers.node_of_isRolled sound (hperm.mem_iff.mp hentry) hrolled
    exact ⟨entry.1, (Path.endsIn_join settings.bufferDir plain.no_slash).fileName? plain, front⟩

theorem IsRun.handled (run : IsRun settings c) (plain : Plain settings.baseName)
    (hq : q ∈ c.sink.handled) :
    ∃ other, q.fileName? = some other ∧ settings.baseName <+: other := by
  obtain ⟨path, name⟩ := run.live plain
  obtain ⟨destination, s, w₀, w, sound, start, reached⟩ := run
  obtain ⟨b₀, b, w₁, w₂, -, -, -, -, hopen⟩ := Sink.start_ok start
  have accounts := (accounts_of_openLive hopen).reached reached
  have hmem : q ∈ s.pending ++ c.rolled := by
    have hfiles := accounts.files q
    have hcount := List.count_pos_iff.mpr hq
    simp only [underWay, Sink.handled, List.count_append] at hfiles hcount
    rw [← List.count_pos_iff, List.count_append]
    omega
  rcases List.mem_append.mp hmem with hqueued | hrolled
  · exact front_of_start start sound hqueued
  · obtain ⟨other, follows, rfl⟩ := (reached.rolled hrolled).resolve_left List.not_mem_nil
    have hpath := reached.same.path.symm.trans path
    have hname := reached.same.name.symm.trans name
    obtain ⟨hother, follows⟩ := fileName?_of_follows hpath hname plain follows
    exact ⟨other, hother, follows.front⟩

end Course

/-! ### Several sinks -/

/-- Sinks in one world, each of which may be running, and what each has done in all its runs. -/
structure Neighbours (ι : Type) where
  world : World
  sinks : ι → Option Sink
  deeds : ι → List Deed

namespace Neighbours

variable {ι : Type}

def none (w : World) : Neighbours ι :=
  { world := w, sinks := fun _ => .none, deeds := fun _ => [] }

/-- A sink starts, or takes a step, or stops; or others do something to the world. -/
inductive Step [DecidableEq ι] (settings : ι → Settings) : Neighbours ι → Neighbours ι → Prop where
  | start (n : Neighbours ι) (i : ι) (destination : Option Destination) (s : Sink) (w : World)
      (sound : n.world.disk.Sound)
      (start : Sink.start (settings i) destination n.world = (.ok s, w)) :
      Step settings n { n with world := w, sinks := Function.update n.sinks i (some s) }
  | go (n : Neighbours ι) (i : ι) (s : Sink) (c : Course) (running : n.sinks i = some s)
      (step : Course.Step (fun _ _ => True) (fun _ _ => True)
        { sink := s, world := n.world, deeds := [] } c) :
      Step settings n
        { world := c.world, sinks := Function.update n.sinks i (some c.sink)
          deeds := Function.update n.deeds i (n.deeds i ++ c.deeds) }
  | stop (n : Neighbours ι) (i : ι) :
      Step settings n { n with sinks := Function.update n.sinks i .none }
  | others (n : Neighbours ι) (w : World) : Step settings n { n with world := w }

/-- The names of the files of a sink: of its live file and of what it has put away in any of its
runs. -/
def Belongs (settings : ι → Settings) (n : Neighbours ι) (i : ι) (name : Name) : Prop :=
  name = (settings i).baseName ∨ ∃ deed ∈ n.deeds i, deed.closedName? = some name

/-- Every sink that runs has come from a start, and what was put away has the names of rolled
files. -/
structure Traced (settings : ι → Settings) (n : Neighbours ι) : Prop where
  runs : ∀ i s, n.sinks i = some s →
    ∃ c, Course.IsRun (settings i) c ∧ c.sink = s ∧ c.world = n.world
  closed : ∀ i q bytes, .closed q bytes ∈ n.deeds i →
    ∃ other, q.fileName? = some other ∧ Follows (settings i).baseName other

section Traced

variable {settings : ι → Settings} {n n' : Neighbours ι} {w : World}

theorem traced_none : Traced settings (none w) :=
  ⟨fun _ _ h => absurd h (by simp [none]), fun _ _ _ h => absurd h List.not_mem_nil⟩

theorem Traced.run_in (h : Traced settings n) {i : ι} {s : Sink} (running : n.sinks i = some s)
    (w : World) : ∃ c, Course.IsRun (settings i) c ∧ c.sink = s ∧ c.world = w := by
  obtain ⟨c, run, sink, -⟩ := h.runs i s running
  exact ⟨{ c with world := w }, run.step (.outside c w trivial), sink, rfl⟩

theorem Traced.own (h : Traced settings n) {i : ι} {name : Name}
    (belongs : n.Belongs settings i name) :
    name = (settings i).baseName ∨ Follows (settings i).baseName name := by
  rcases belongs with rfl | ⟨deed, hdeed, hclosed⟩
  · exact .inl rfl
  · obtain ⟨q, bytes, rfl, hname⟩ := Deed.exists_of_closedName? hclosed
    obtain ⟨other, hother, follows⟩ := h.closed i q bytes hdeed
    obtain rfl := Option.some.inj (hother.symm.trans hname)
    exact .inr follows

variable [DecidableEq ι]

theorem Traced.step (h : Traced settings n) (plain : ∀ i, Plain (settings i).baseName)
    (step : Step settings n n') : Traced settings n' := by
  cases step with
  | start i destination s w sound start =>
    refine ⟨fun j s' running => ?_, h.closed⟩
    rcases eq_or_ne j i with rfl | hne
    · obtain rfl : s = s' := by simpa using running
      exact ⟨_, ⟨destination, s, n.world, w, sound, start, .start⟩, rfl, rfl⟩
    · exact h.run_in (by simpa [hne] using running) w
  | go i s c running step =>
    obtain ⟨c₀, run, rfl, hworld⟩ := h.runs i s running
    rw [← hworld] at step
    refine ⟨fun j s' hrunning => ?_, fun j q bytes hclosed => ?_⟩
    · rcases eq_or_ne j i with rfl | hne
      · obtain rfl : c.sink = s' := by simpa using hrunning
        have hstep := step.behind c₀.deeds
        rw [Course.behind, List.append_nil] at hstep
        exact ⟨_, run.step hstep, rfl, rfl⟩
      · exact h.run_in (by simpa [hne] using hrunning) c.world
    · rcases eq_or_ne j i with rfl | hne
      · have hclosed : .closed q bytes ∈ n.deeds j ++ c.deeds := by simpa using hclosed
        exact (List.mem_append.mp hclosed).elim (h.closed j q bytes) (run.closed (plain j) step)
      · exact h.closed j q bytes (by simpa [hne] using hclosed)
  | stop i =>
    refine ⟨fun j s' running => ?_, h.closed⟩
    rcases eq_or_ne j i with rfl | hne
    · exact absurd running (by simp)
    · exact h.runs j s' (by simpa [hne] using running)
  | others w => exact ⟨fun j s' running => h.run_in running w, h.closed⟩

theorem Traced.of_reached (plain : ∀ i, Plain (settings i).baseName)
    (reached : Relation.ReflTransGen (Step settings) (none w) n) : Traced settings n := by
  induction reached with
  | refl => exact traced_none
  | tail _ step ih => exact ih.step plain step

/-- A sink has no file of another one if its base name is not the beginning of the other one and
does not go on after it with a point: whatever they and others do, it queues none when it starts and
handles none later, and the names of its own files are different ones. -/
theorem neighbours_apart (named : ∀ i, Config.isPlainName (settings i).baseName = true)
    (reached : Relation.ReflTransGen (Step settings) (none w) n) {i j : ι}
    (front : ¬ (settings i).baseName <+: (settings j).baseName)
    (dotted : ¬ (settings j).baseName ++ ['.'] <+: (settings i).baseName) :
    (∀ destination s w', n.world.disk.Sound →
      Sink.start (settings i) destination n.world = (.ok s, w') →
        ∀ q ∈ s.pending, ∃ name, q.fileName? = some name ∧ ¬ n.Belongs settings j name) ∧
      (∀ s, n.sinks i = some s →
        ∀ q ∈ s.handled, ∃ name, q.fileName? = some name ∧ ¬ n.Belongs settings j name) ∧
      ∀ name, n.Belongs settings i name → ¬ n.Belongs settings j name := by
  have plain := fun i => Config.plain_of_isPlainName (named i)
  have h := Traced.of_reached plain reached
  have differ : ∀ {name : Name}, (settings i).baseName <+: name → ¬ n.Belongs settings j name := by
    intro name hfront belongs
    rcases h.own belongs with rfl | follows
    · exact front hfront
    · exact follows.not_front front dotted hfront
  refine ⟨fun destination s w' sound start q hq => ?_, fun s running q hq => ?_,
    fun name belongs => ?_⟩
  · obtain ⟨name, hname, hfront⟩ := Course.front_of_start start sound hq
    exact ⟨name, hname, differ hfront⟩
  · obtain ⟨c, run, rfl, -⟩ := h.runs i s running
    obtain ⟨name, hname, hfront⟩ := run.handled (plain i) hq
    exact ⟨name, hname, differ hfront⟩
  · rcases h.own belongs with rfl | follows
    · exact differ (List.prefix_refl _)
    · exact differ follows.front

end Traced

/-- Two sinks with the buffer directory `buf`. -/
def two (first : Bool) : Settings :=
  { Settings.default with
    connection := "buf:".toList
    baseName := if first then Settings.default.baseName else "other".toList }

/-- One of two sinks has rolled over. The other one starts and takes up the file that it had left,
and nothing of its neighbour. -/
theorem neighbours_apart_after_rollover :
    ∃ (n : Neighbours Bool) (s : Sink) (w : World),
      Relation.ReflTransGen (Step two) (none { World.fresh ['w'] with disk := Course.oneLeft }) n ∧
        n.Belongs two false "other.1970-01-01T00:00:00".toList ∧
        Sink.start (two true) (some (.scripted (.ofScript [] .none))) n.world = (.ok s, w) ∧
        s.pending = [⟨"buf/event-bundle.1".toList⟩] ∧
        ∀ q ∈ s.pending, ∃ name, q.fileName? = some name ∧ ¬ n.Belongs two false name := by
  have hcheck : Sink.passes (Sink.start (two false) (some (.scripted (.ofScript [] .none)))
      { World.fresh ['w'] with disk := Course.oneLeft }) (fun s w =>
        let c := (Course.mk s w []).rollOver
        decide (w.disk.dirOf? (two false).bufferDir = some [['w'], "buf".toList]) &&
        decide (w.disk.node? ([['w'], "buf".toList] ++ [(two false).baseName]) = some (.file 2)) &&
        c.deeds.any (fun deed =>
          decide (deed.closedName? = some "other.1970-01-01T00:00:00".toList)) &&
        Sink.passes (Sink.start (two true) (some (.scripted (.ofScript [] .none))) c.world)
          (fun s' _ => decide (s'.pending = [⟨"buf/event-bundle.1".toList⟩]))) = true := by
    decide +kernel
  obtain ⟨s, w, start, hcheck⟩ := Sink.exists_of_passes hcheck
  simp only [Bool.and_eq_true, decide_eq_true_eq, List.any_eq_true] at hcheck
  obtain ⟨⟨⟨leads, regular⟩, deed, hdeed, hclosed⟩, hcheck⟩ := hcheck
  obtain ⟨s', w', start', hpending⟩ := Sink.exists_of_passes hcheck
  have begun := begun_of_regular start Course.oneLeft_sound
    (Config.plain_of_isPlainName (by decide)) leads regular
  have started : Step two (none { World.fresh ['w'] with disk := Course.oneLeft }) _ :=
    .start _ false _ s w Course.oneLeft_sound start
  have reached := (Relation.ReflTransGen.single started).tail
    (.go _ false s _ (by simp) (.rollOver _))
  refine ⟨_, s', w', reached, .inr ⟨deed, by simpa [none] using hdeed, hclosed⟩, start',
    of_decide_eq_true hpending, ?_⟩
  exact (neighbours_apart (by decide) reached (by decide) (by decide)).1 _ s' w'
    begun.buffer.rollOver.site.sound start'

end Neighbours

/-! ### A base name that is the beginning of another one -/

/-- A scan takes up every file whose name goes on after the base name, also the live file of
another sink, and its rolled files. -/
theorem Leftovers.mem_scan_of_front {path : Path} {base other : Name} {loc : Location}
    {d d' : Disk} {found : List Path} {id : Nat} (h : scan path base d = .ok (found, d'))
    (hfind : d.find path = .ok (loc, .dir)) (front : base <+: other) (ne : base ≠ other)
    (hnode : d.node? (loc ++ [other]) = some (.file id)) : path.join other ∈ found := by
  obtain ⟨-, loc', entries, hfind', hperm, rfl⟩ := scan_ok h
  obtain rfl : loc = loc' := by simpa using hfind.symm.trans hfind'
  have hmem := hperm.mem_iff.mpr (Disk.mem_children_of_mem (Disk.mem_of_node? hnode (by simp)))
  exact List.mem_map.mpr ⟨(other, .file id),
    List.mem_filter.mpr ⟨hmem, isRolled_iff.mpr ⟨⟨id, rfl⟩, front, ne⟩⟩, rfl⟩

/-- A sink with the base name `event` finds the live file of a running one with the base name
`event2`. After a tick it has uploaded and removed it. -/
theorem neighbour_taken :
    Config.isPlainName "event".toList = true ∧ Config.isPlainName "event2".toList = true ∧
      ∃ s w s' w', Sink.start
          { Settings.default with connection := "buf:".toList, baseName := "event2".toList }
          (some (.scripted (.ofScript [] none))) .listingNewest = (.ok s, w) ∧
        Sink.start { Settings.default with connection := "buf:".toList, baseName := "event".toList }
          (some (.scripted (.ofScript [] none))) ((Course.mk s w []).output [97]).world
            = (.ok s', w') ∧
        s.live.path ∈ s'.pending ∧
        ((Course.mk s' w' []).tick.turnsAt 0 Upload.maxTurns).world.disk.fileAt?
          [['w'], "buf".toList, "event2".toList] = none := by
  have hcheck : Sink.passes (Sink.start
      { Settings.default with connection := "buf:".toList, baseName := "event2".toList }
      (some (.scripted (.ofScript [] none))) .listingNewest) (fun s w =>
        Sink.passes (Sink.start
          { Settings.default with connection := "buf:".toList, baseName := "event".toList }
          (some (.scripted (.ofScript [] none))) ((Course.mk s w []).output [97]).world)
          (fun s' w' => decide (s.live.path ∈ s'.pending) &&
            decide (((Course.mk s' w' []).tick.turnsAt 0 Upload.maxTurns).world.disk.fileAt?
              [['w'], "buf".toList, "event2".toList] = none))) = true := by
    decide +kernel
  obtain ⟨s, w, start, hcheck⟩ := Sink.exists_of_passes hcheck
  obtain ⟨s', w', start', hcheck⟩ := Sink.exists_of_passes hcheck
  simp only [Bool.and_eq_true, decide_eq_true_eq] at hcheck
  exact ⟨by decide, by decide, s, w, s', w', start, start', hcheck.1, hcheck.2⟩

end Outbox
