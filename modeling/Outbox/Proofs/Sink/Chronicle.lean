import Mathlib.Logic.Relation
import Outbox.Sink.Phase
import Outbox.Proofs.LiveFile.Seats
import Outbox.Proofs.Sink.Clock

/-!
# Chronicles

A chronicle is a sink with whoever has it, and what has been done: each flush request with its
answer, and each operation with its cause, its time and its outcome. Calls are made by hand until
the loop takes the sink over or the sink is dropped. From then on the loop takes in records, ticks,
outcomes and flush requests in whatever order they come, and time passes as it likes. Why a loop
stops does not matter here, so it may stop at any time.

All that a step can come to is said once (`Goes`): something aside, the end of the sink, the start
of its loop, a flush request, or a call that does a plan of operations (`Called`). Whatever these
five keep is kept along all runs.
-/

set_option autoImplicit false

namespace Outbox

open Sink (Operation Done performAll)

/-- Why an operation was done. -/
inductive Cause where
  | record
  | tick
  | flush
  | hand
  deriving DecidableEq, Repr

/-- Something that has been done with a sink. -/
inductive Entry where
  | requested (answer : Bool)
  | did (cause : Cause) (now : Nat) (done : Done)

def Entry.isByHand : Entry → Bool
  | .requested _ => true
  | .did cause _ _ => cause = .hand

/-- A sink, who has it, and what has been done with it. -/
structure Chronicle where
  phase : SinkPhase
  world : World
  entries : List Entry

def SinkPhase.nextTick? : SinkPhase → Option Nat
  | .looping l => some l.nextTick
  | _ => none

namespace Chronicle

/-- A sink that has been started and has not been used. -/
def start (s : Sink) (w : World) : Chronicle :=
  { phase := .idle s, world := w, entries := [] }

def request (t : Chronicle) : Chronicle :=
  { t with
    phase := t.phase.requestFlush.2
    entries := t.entries ++ [.requested t.phase.requestFlush.1] }

/-- A call with a plan of operations has led to a phase and a world. -/
def call (t : Chronicle) (cause : Cause) (plan : List Operation) (s : Sink) (w : World)
    (phase : SinkPhase) (world : World) : Chronicle :=
  { phase, world, entries := t.entries ++ (performAll plan s w).1.map (.did cause w.now) }

def output (t : Chronicle) (s : Sink) (record : Bytes) : Chronicle :=
  t.call .hand (s.outputPlan record) s t.world (.idle (s.output record t.world).2.1)
    (s.output record t.world).2.2

def rollOver (t : Chronicle) (s : Sink) : Chronicle :=
  t.call .hand [.rollOver] s t.world (.idle (s.rollOver t.world).2.1) (s.rollOver t.world).2.2

def receive (t : Chronicle) (l : Loop) (record : Bytes) : Chronicle :=
  t.call .record (l.sink.outputPlan record) l.sink t.world (.looping (l.receive t.world).1)
    (l.receive t.world).2

def tick (t : Chronicle) (l : Loop) : Chronicle :=
  t.call .tick (l.sink.tickPlan t.world) l.sink t.world (.looping (l.tick t.world).1)
    (l.tick t.world).2

def flush (t : Chronicle) (l : Loop) : Chronicle :=
  t.call .flush [.rollOver] { l.sink with flushWaiting := false }
    (t.world.tell (.flushRequested l.sink.destination.describe)) (.looping (l.flush t.world).1)
    (l.flush t.world).2

/-- One step: a call by hand, something that the loop takes in, or what others do. Others leave the
live file alone, as the sink's own uploads do with a regular one (`Course.Buffer.rests`). -/
inductive Step (t : Chronicle) : Chronicle → Prop where
  | request : Step t t.request
  | output (s : Sink) (record : Bytes) (idle : t.phase = .idle s) : Step t (t.output s record)
  | rollOver (s : Sink) (idle : t.phase = .idle s) : Step t (t.rollOver s)
  | drop (s : Sink) (idle : t.phase = .idle s) : Step t { t with phase := .dropped s }
  | run (s : Sink) (capacity : Nat) (idle : t.phase = .idle s) :
      Step t { t with
        phase := .looping (Loop.start s capacity t.world).1
        world := (Loop.start s capacity t.world).2 }
  | receive (l : Loop) (record : Bytes) (records : Channel) (looping : t.phase = .looping l)
      (running : l.isRunning = true) (first : l.records.take? = some (record, records)) :
      Step t (t.receive l record)
  | tick (l : Loop) (looping : t.phase = .looping l) (running : l.isRunning = true)
      (due : l.nextTick ≤ t.world.now) : Step t (t.tick l)
  | flush (l : Loop) (looping : t.phase = .looping l) (running : l.isRunning = true)
      (waiting : l.sink.flushWaiting = true) : Step t (t.flush l)
  | takeOutcome (l : Loop) (looping : t.phase = .looping l) (running : l.isRunning = true) :
      Step t { t with
        phase := .looping (l.takeOutcome t.world).1, world := (l.takeOutcome t.world).2 }
  | stop (l : Loop) (log : List Event) (looping : t.phase = .looping l)
      (running : l.isRunning = true) :
      Step t { t with
        phase := .looping (l.stop { t.world with log }).1
        world := (l.stop { t.world with log }).2 }
  /-- Records are sent, or no more are; the loop is told to stop; nobody hears of errors. -/
  | callers (l : Loop) (records : Channel) (cancelled errorHeard : Bool)
      (looping : t.phase = .looping l) :
      Step t { t with phase := .looping { l with records, cancelled, errorHeard } }
  /-- Uploads go on, and the surroundings change. -/
  | others (uploads : List Upload) (outcomes : List Outcome) (destination : Destination)
      (disk : Disk) (wall : Timestamp) (log : List Event)
      (rests : t.phase.sink.live.Rests t.world.disk disk) :
      Step t { t with
        phase := t.phase.withSink { t.phase.sink with uploads, outcomes, destination }
        world := { t.world with disk, wall, log } }
  | wait (now : Nat) (later : t.world.now ≤ now) :
      Step t { t with world := { t.world with now } }

/-- A sink is used by any number of steps. -/
abbrev Run : Chronicle → Chronicle → Prop :=
  Relation.ReflTransGen Step

/-! ### What a step comes to -/

/-- Nothing is done that is entered, and the live file and the clock of the loop are left alone. -/
structure Unentered (t t' : Chronicle) : Prop where
  entries : t'.entries = t.entries
  settings : t'.phase.sink.settings = t.phase.sink.settings
  live : t'.phase.sink.live = t.phase.sink.live
  flushWaiting : t'.phase.sink.flushWaiting = t.phase.sink.flushWaiting
  isOpen : t'.phase.isOpen = t.phase.isOpen
  nextTick? : t'.phase.nextTick? = t.phase.nextTick?
  rests : t.phase.sink.live.Rests t.world.disk t'.world.disk
  now : t.world.now ≤ t'.world.now

/-- A call that did a plan of operations, on the sink as it was except for the flag. A loop that
goes on after it has seen none of them fail. -/
structure Called (t : Chronicle) (cause : Cause) (plan : List Operation) (s : Sink) (w : World)
    (t' : Chronicle) : Prop where
  isOpen : t.phase.isOpen = true
  settings : s.settings = t.phase.sink.settings
  live : s.live = t.phase.sink.live
  disk : w.disk = t.world.disk
  now : w.now = t.world.now
  entries : t'.entries = t.entries ++ (performAll plan s w).1.map (.did cause w.now)
  sink : t'.phase.isOpen = true → t'.phase.sink = (performAll plan s w).2.2.1
  world : t'.phase.isOpen = true → t'.world = (performAll plan s w).2.2.2
  calm : t'.phase.isOpen = true → cause ≠ .hand → (performAll plan s w).2.1 = .ok ()

/-- What one step can come to. -/
inductive Goes (t t' : Chronicle) : Prop where
  | aside (aside : Unentered t t')
  | ended (entries : t'.entries = t.entries) (closed : t'.phase.isOpen = false)
  | begun (s : Sink) (l : Loop) (before : t.phase = .idle s) (after : t'.phase = .looping l)
      (sink : l.sink = s) (next : l.nextTick = t.world.now + s.settings.tickInterval)
      (entries : t'.entries = t.entries) (disk : t'.world.disk = t.world.disk)
      (now : t'.world.now = t.world.now)
  | requested (same : t' = t.request)
  /-- A record, or a call by hand. -/
  | took (cause : Cause) (plan : List Operation) (s : Sink) (w : World)
      (plain : cause = .hand ∧ t.phase.nextTick? = none ∨
        cause = .record ∧ t.phase.nextTick? ≠ none)
      (called : Called t cause plan s w t')
      (flag : s.flushWaiting = t.phase.sink.flushWaiting)
      (next : t'.phase.isOpen = true → t'.phase.nextTick? = t.phase.nextTick?)
  | ticked (l : Loop) (before : t.phase = .looping l) (due : l.nextTick ≤ t.world.now)
      (called : Called t .tick (l.sink.tickPlan t.world) l.sink t.world t')
      (next : t'.phase.isOpen = true →
        t'.phase.nextTick? = some (l.nextTick + l.sink.settings.tickInterval))
  | flushed (s : Sink) (w : World) (looping : t.phase.nextTick? ≠ none)
      (waiting : t.phase.sink.flushWaiting = true)
      (called : Called t .flush [.rollOver] s w t') (flag : s.flushWaiting = false)
      (next : t'.phase.isOpen = true → t'.phase.nextTick? = t.phase.nextTick?)

variable {t t' : Chronicle}

theorem followed {l : Loop} {plan : List Operation} {s : Sink} {w : World}
    (going : (l.follow (performAll plan s w).2).1.isRunning = true) :
    (performAll plan s w).2.1 = .ok () ∧
      l.follow (performAll plan s w).2
        = ({ l with sink := (performAll plan s w).2.2.1 }, (performAll plan s w).2.2.2) := by
  generalize performAll plan s w = result at going
  obtain ⟨done, e | _, s', w'⟩ := result
  · rw [Loop.follow, Ledger.fail_stopped] at going
    exact absurd going (by simp)
  · exact ⟨rfl, rfl⟩

/-- A call of a loop is entered with its operations, whatever else changes in the loop. -/
theorem called_of_follow {l l' : Loop} {cause : Cause} {plan : List Operation} {s : Sink}
    {w : World} (looping : t.phase = .looping l) (running : l.isRunning = true)
    (settings : s.settings = l.sink.settings) (live : s.live = l.sink.live)
    (disk : w.disk = t.world.disk) (now : w.now = t.world.now) :
    Called t cause plan s w (t.call cause plan s w
      (.looping (l'.follow (performAll plan s w).2).1) (l'.follow (performAll plan s w).2).2) where
  isOpen := by rw [looping]; exact running
  settings := by rw [looping]; exact settings
  live := by rw [looping]; exact live
  disk := disk
  now := now
  entries := rfl
  sink := fun going => by
    show (l'.follow _).1.sink = _
    rw [(followed going).2]
  world := fun going => by
    show (l'.follow _).2 = _
    rw [(followed going).2]
  calm := fun going _ => (followed going).1

theorem nextTick?_of_follow {l : Loop} {plan : List Operation} {s : Sink} {w : World}
    (going : (l.follow (performAll plan s w).2).1.isRunning = true) :
    (l.follow (performAll plan s w).2).1.nextTick = l.nextTick := by
  rw [(followed going).2]

theorem goes_by_hand {s : Sink} (idle : t.phase = .idle s) (plan : List Operation) :
    Goes t (t.call .hand plan s t.world (.idle (performAll plan s t.world).2.2.1)
      (performAll plan s t.world).2.2.2) := by
  refine .took .hand plan s t.world (.inl ⟨rfl, by rw [idle]; rfl⟩) ?_ (by rw [idle]; rfl)
    fun _ => (by rw [idle]; rfl)
  exact ⟨by rw [idle]; rfl, by rw [idle]; rfl, by rw [idle]; rfl, rfl, rfl, rfl, fun _ => rfl,
    fun _ => rfl, fun _ hne => absurd rfl hne⟩

theorem goes_output {s : Sink} {record : Bytes} (idle : t.phase = .idle s) :
    Goes t (t.output s record) := by
  rw [output, Sink.output_eq]
  exact goes_by_hand idle _

theorem goes_rollOver {s : Sink} (idle : t.phase = .idle s) : Goes t (t.rollOver s) := by
  have hperform : (performAll [.rollOver] s t.world).2.2 = (s.rollOver t.world).2 := by
    rw [Sink.performAll_single]
    rfl
  rw [rollOver, ← hperform]
  exact goes_by_hand idle _

theorem goes_run {s : Sink} (capacity : Nat) (idle : t.phase = .idle s) :
    Goes t { t with
      phase := .looping (Loop.start s capacity t.world).1
      world := (Loop.start s capacity t.world).2 } := by
  rw [Loop.start]
  split
  · exact .ended rfl rfl
  · exact .begun s _ idle rfl rfl rfl rfl rfl rfl

theorem goes_receive {l : Loop} {record : Bytes} {records : Channel}
    (looping : t.phase = .looping l) (running : l.isRunning = true)
    (first : l.records.take? = some (record, records)) : Goes t (t.receive l record) := by
  -- the channel is one record shorter, which `Called` does not look at
  have hreceive : l.receive t.world
      = { l with records }.follow (performAll (l.sink.outputPlan record) l.sink t.world).2 := by
    simp only [Loop.receive, first, Sink.output_eq]
  rw [receive, hreceive]
  refine .took .record _ l.sink t.world (.inr ⟨rfl, by simp [looping, SinkPhase.nextTick?]⟩)
    (called_of_follow looping running rfl rfl rfl rfl) (by rw [looping]; rfl) fun going => ?_
  rw [looping]
  exact congrArg some (nextTick?_of_follow going)

theorem called_tick {l : Loop} (looping : t.phase = .looping l) (running : l.isRunning = true) :
    Called t .tick (l.sink.tickPlan t.world) l.sink t.world (t.tick l) := by
  rw [tick, Loop.tick, Sink.tick_eq]
  exact called_of_follow looping running rfl rfl rfl rfl

theorem goes_tick {l : Loop} (looping : t.phase = .looping l) (running : l.isRunning = true)
    (due : l.nextTick ≤ t.world.now) : Goes t (t.tick l) := by
  refine .ticked l looping due (called_tick looping running) fun going => ?_
  have htick : l.tick t.world
      = { l with nextTick := l.nextTick + l.sink.settings.tickInterval }.follow
        (performAll (l.sink.tickPlan t.world) l.sink t.world).2 := by
    rw [Loop.tick, Sink.tick_eq]
  rw [tick, htick] at going ⊢
  exact congrArg some (nextTick?_of_follow going)

theorem goes_flush {l : Loop} (looping : t.phase = .looping l) (running : l.isRunning = true)
    (waiting : l.sink.flushWaiting = true) : Goes t (t.flush l) := by
  have hflush : l.flush t.world
      = { l with sink := { l.sink with flushWaiting := false } }.follow
        (performAll [.rollOver] { l.sink with flushWaiting := false }
          (t.world.tell (.flushRequested l.sink.destination.describe))).2 := by
    rw [Sink.performAll_single, Operation.perform, Ledger.follow_map]
    rfl
  rw [flush, hflush]
  refine .flushed _ _ (by simp [looping, SinkPhase.nextTick?]) (by rw [looping]; exact waiting)
    (called_of_follow looping running rfl rfl rfl rfl) rfl fun going => ?_
  rw [looping]
  exact congrArg some (nextTick?_of_follow going)

theorem settleOutcome_aside (s : Sink) (outcome : Outcome) (w : World) :
    (s.settleOutcome outcome w).1.settings = s.settings ∧
      (s.settleOutcome outcome w).1.live = s.live ∧
      (s.settleOutcome outcome w).1.flushWaiting = s.flushWaiting ∧
      (s.settleOutcome outcome w).2.disk = w.disk ∧
      (s.settleOutcome outcome w).2.now = w.now := by
  have told : ∀ event : Option Event,
      (Sink.tellMaybe event w).disk = w.disk ∧ (Sink.tellMaybe event w).now = w.now := by
    rintro (_ | event) <;> exact ⟨rfl, rfl⟩
  rw [Sink.settleOutcome]
  dsimp only
  split
  · exact ⟨rfl, rfl, rfl, rfl, rfl⟩
  · exact ⟨rfl, rfl, rfl, told _⟩

theorem goes_takeOutcome {l : Loop} (looping : t.phase = .looping l) :
    Goes t { t with
      phase := .looping (l.takeOutcome t.world).1, world := (l.takeOutcome t.world).2 } := by
  have aside : ∀ {l' : Loop} {w : World}, l'.isRunning = l.isRunning → l'.nextTick = l.nextTick →
      l'.sink.settings = l.sink.settings → l'.sink.live = l.sink.live →
      l'.sink.flushWaiting = l.sink.flushWaiting → w.disk = t.world.disk →
      t.world.now ≤ w.now → Goes t { t with phase := .looping l', world := w } := by
    intro l' w running next settings live flag disk now
    refine .aside ⟨rfl, ?_, ?_, ?_, ?_, ?_, ?_, now⟩
    iterate 4
      rw [looping]
      assumption
    · rw [looping]
      exact congrArg some next
    · intro handle seated
      show t.phase.sink.live.Seated w.disk handle ∧ _
      rw [disk]
      exact ⟨seated, rfl⟩
  rw [Loop.takeOutcome]
  split
  · exact aside rfl rfl rfl rfl rfl rfl (Nat.le_refl _)
  next outcome rest _ =>
  dsimp only
  split
  · exact .ended rfl (by simp [SinkPhase.isOpen, Loop.isRunning, Loop.crash])
  · obtain ⟨settings, live, flag, disk, now⟩ :=
      settleOutcome_aside { l.sink with outcomes := rest } outcome t.world
    exact aside rfl rfl settings live flag disk (Nat.le_of_eq now.symm)

theorem goes_stop {l : Loop} (w : World) :
    Goes t { t with phase := .looping (l.stop w).1, world := (l.stop w).2 } :=
  .ended rfl (by simp [SinkPhase.isOpen, Loop.isRunning, Loop.stop])

theorem unentered_callers {l : Loop} (records : Channel) (cancelled errorHeard : Bool)
    (looping : t.phase = .looping l) :
    Unentered t { t with phase := .looping { l with records, cancelled, errorHeard } } := by
  refine ⟨rfl, ?_, ?_, ?_, ?_, ?_, fun seated => ⟨seated, rfl⟩, Nat.le_refl _⟩
  all_goals
    rw [looping]
    rfl

theorem unentered_others (uploads : List Upload) (outcomes : List Outcome)
    (destination : Destination) {disk : Disk} (wall : Timestamp) (log : List Event)
    (rests : t.phase.sink.live.Rests t.world.disk disk) :
    Unentered t { t with
      phase := t.phase.withSink { t.phase.sink with uploads, outcomes, destination }
      world := { t.world with disk, wall, log } } := by
  refine ⟨rfl, ?_, ?_, ?_, ?_, ?_, rests, Nat.le_refl _⟩
  all_goals
    cases t.phase <;> rfl

theorem goes_of_step (step : Step t t') : Goes t t' := by
  cases step with
  | request => exact .requested rfl
  | output s record idle => exact goes_output idle
  | rollOver s idle => exact goes_rollOver idle
  | drop s idle => exact .ended rfl rfl
  | run s capacity idle => exact goes_run capacity idle
  | receive l record records looping running first => exact goes_receive looping running first
  | tick l looping running due => exact goes_tick looping running due
  | flush l looping running waiting => exact goes_flush looping running waiting
  | takeOutcome l looping running => exact goes_takeOutcome looping
  | stop l log looping running => exact goes_stop _
  | callers l records cancelled errorHeard looping =>
    exact .aside (unentered_callers records cancelled errorHeard looping)
  | others uploads outcomes destination disk wall log rests =>
    exact .aside (unentered_others uploads outcomes destination wall log rests)
  | wait now later =>
    exact .aside ⟨rfl, rfl, rfl, rfl, rfl, rfl, fun seated => ⟨seated, rfl⟩, later⟩

/-! ### Flush requests -/

theorem request_isOpen (phase : SinkPhase) : phase.requestFlush.2.isOpen = phase.isOpen := by
  cases phase with
  | idle s => rfl
  | dropped s => rfl
  | looping l =>
    show (l.requestFlush.2).isRunning = l.isRunning
    rw [Loop.requestFlush]
    split <;> rfl

theorem request_sink (phase : SinkPhase) :
    phase.requestFlush.2.sink
      = { phase.sink with flushWaiting := phase.sink.flushWaiting || phase.isOpen } := by
  cases phase with
  | idle s => simp [SinkPhase.requestFlush, SinkPhase.sink, Sink.requestFlush, SinkPhase.isOpen]
  | dropped s => simp [SinkPhase.requestFlush, SinkPhase.sink, SinkPhase.isOpen]
  | looping l =>
    cases hrunning : l.isRunning <;>
      simp [SinkPhase.requestFlush, SinkPhase.sink, Loop.requestFlush, Sink.requestFlush,
        SinkPhase.isOpen, hrunning]

/-- The answer is yes exactly if somebody is there and no flush waits. -/
theorem request_answer (phase : SinkPhase) :
    phase.requestFlush.1 = (phase.isOpen && !phase.sink.flushWaiting) := by
  cases phase with
  | idle s => rfl
  | dropped s => rfl
  | looping l =>
    cases hrunning : l.isRunning <;>
      simp [SinkPhase.requestFlush, SinkPhase.sink, Loop.requestFlush, Sink.requestFlush,
        SinkPhase.isOpen, hrunning]

theorem request_nextTick? (phase : SinkPhase) :
    phase.requestFlush.2.nextTick? = phase.nextTick? := by
  cases phase with
  | idle s => rfl
  | dropped s => rfl
  | looping l =>
    show some (l.requestFlush.2).nextTick = some l.nextTick
    rw [Loop.requestFlush]
    split <;> rfl

/-- A sink that is left to nobody stays so. -/
theorem Step.closed (step : Step t t') (h : t.phase.isOpen = false) : t'.phase.isOpen = false := by
  cases goes_of_step step with
  | aside aside => exact aside.isOpen.trans h
  | ended entries closed => exact closed
  | begun s l before =>
    rw [before] at h
    exact absurd h (by simp [SinkPhase.isOpen])
  | requested same =>
    rw [same]
    exact (request_isOpen _).trans h
  | took cause plan s w plain called => exact absurd (h.symm.trans called.isOpen) (by simp)
  | ticked l before due called => exact absurd (h.symm.trans called.isOpen) (by simp)
  | flushed s w looping waiting called => exact absurd (h.symm.trans called.isOpen) (by simp)

theorem Run.closed (run : Run t t') (h : t.phase.isOpen = false) : t'.phase.isOpen = false := by
  induction run with
  | refl => exact h
  | tail _ step ih => exact step.closed ih

/-! ### Calls -/

/-- What has been done with a sink that no loop has had. -/
def OnlyByHand (t : Chronicle) : Prop :=
  t.phase.isOpen = true → t.phase.nextTick? = none → ∀ entry ∈ t.entries, entry.isByHand = true

theorem OnlyByHand.step (h : t.OnlyByHand) (step : Step t t') : t'.OnlyByHand := by
  intro isOpen none
  cases goes_of_step step with
  | aside aside =>
    rw [aside.entries]
    exact h (aside.isOpen ▸ isOpen) (aside.nextTick? ▸ none)
  | ended entries closed => exact absurd (isOpen.symm.trans closed) (by simp)
  | begun s l before after =>
    rw [after] at none
    exact absurd none (by simp [SinkPhase.nextTick?])
  | requested same =>
    subst same
    intro entry hmem
    rcases List.mem_append.mp hmem with hmem | hmem
    · exact h ((request_isOpen _).symm.trans isOpen) ((request_nextTick? _).symm.trans none) entry
        hmem
    · rw [List.mem_singleton.mp hmem]
      rfl
  | took cause plan s w plain called flag next =>
    have hnone := (next isOpen).symm.trans none
    intro entry hmem
    rw [called.entries] at hmem
    rcases List.mem_append.mp hmem with hmem | hmem
    · exact h called.isOpen hnone entry hmem
    · obtain ⟨done, -, rfl⟩ := List.mem_map.mp hmem
      exact decide_eq_true (plain.resolve_right fun looping => looping.2 hnone).1
  | ticked l before due called next =>
    exact absurd ((next isOpen).symm.trans none) (by simp)
  | flushed s w looping waiting called flag next =>
    exact absurd ((next isOpen).symm.trans none) looping

theorem onlyByHand_of_run {s : Sink} {w : World} (run : Run (start s w) t) : t.OnlyByHand := by
  induction run with
  | refl => exact fun _ _ entry hmem => absurd hmem List.not_mem_nil
  | tail _ step ih => exact ih.step step

theorem Called.clock {cause : Cause} {plan : List Operation} {s : Sink} {w : World}
    (called : Called t cause plan s w t') (going : t'.phase.isOpen = true) :
    Sink.Ticks ((performAll plan s w).1.any Sink.rolls) s w t'.phase.sink t'.world := by
  rw [called.sink going, called.world going]
  exact Sink.performAll_clock plan s w

/-- An entry that is none of the new ones was there before. -/
theorem split_of_append {α : Type} {entries new before after : List α} {entry : α}
    (h : entries ++ new = before ++ entry :: after) (hnew : entry ∉ new) :
    ∃ between, after = between ++ new ∧ entries = before ++ entry :: between := by
  rcases List.append_eq_append_iff.mp h with ⟨more, rfl, hnew'⟩ | ⟨more, rfl, hafter⟩
  · exact absurd (hnew' ▸ List.mem_append_right _ List.mem_cons_self) hnew
  · cases more with
    | nil =>
      rw [List.nil_append] at hafter
      exact absurd (hafter ▸ List.mem_cons_self) hnew
    | cons first between =>
      obtain ⟨rfl, rfl⟩ := List.cons.inj hafter
      exact ⟨between, rfl, rfl⟩

theorem exists_of_append {entries new : List Entry} {kind : Entry → Bool}
    (h : ∃ entry ∈ entries ++ new, kind entry = true)
    (hnew : ∀ entry ∈ new, kind entry = false) : ∃ entry ∈ entries, kind entry = true := by
  obtain ⟨entry, hmem, hentry⟩ := h
  refine ⟨entry, (List.mem_append.mp hmem).resolve_right fun hadded => ?_, hentry⟩
  exact absurd ((hnew entry hadded).symm.trans hentry) (by simp)

end Chronicle

end Outbox
