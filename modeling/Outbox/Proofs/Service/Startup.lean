import Outbox.Proofs.Sink.Clock
import Outbox.Service

/-!
# Services that break off at their start

Three settings of a service are handed on as they are when it starts: the length of the queue of
records, and the intervals of the ticks and of the reports. There is no queue without room or with
more room than can be counted, and no timer without an interval or beyond the last time that can be
told. A configuration that is accepted has none of the three at zero (`Config.Positive`), but
nothing in it keeps them small. So a service breaks off at its start exactly if its sink starts and
one of them is too large (`breaksOff_iff`), and accepted configurations can have each of them too
large (`accepted_breaksOff`).
-/

set_option autoImplicit false

namespace Outbox

/-! ### Accepted configurations -/

/-- Nothing is zero that a queue or a timer is made from. -/
structure Config.Positive (c : Config) : Prop where
  queue : 0 < c.bundle.queueSize
  tick : 0 < c.bundle.settings.tickInterval
  reports : c.bundle.metricsEnabled = true → 0 < c.bundle.metricsInterval

theorem Config.positive_of_objection? {c : Config} (h : c.objection? = none) : c.Positive := by
  simp only [objection?, ite_eq_iff, reduceCtorEq, and_false, false_or, Bool.and_eq_true,
    decide_eq_true_eq, not_and] at h
  obtain ⟨-, -, -, tick, -, -, queue, reports, -⟩ := h
  exact ⟨Nat.pos_of_ne_zero queue, Nat.pos_of_ne_zero tick,
    fun enabled => Nat.pos_of_ne_zero (reports enabled)⟩

theorem Config.objection?_of_ofText {text : Text} {c : Config} (h : ofText text = .ok c) :
    c.objection? = none := by
  rw [ofText] at h
  split at h
  · exact absurd h (by simp)
  · next entries _ =>
    cases hdocument : ofDocument entries with
    | error e => simp [hdocument, bind, Except.bind] at h
    | ok c' =>
      cases hobjection : c'.objection? with
      | some e => simp [hdocument, hobjection, bind, Except.bind] at h
      | none =>
        simp only [hdocument, hobjection, bind, Except.bind, Except.ok.injEq] at h
        rw [← h, hobjection]

/-! ### What comes of a start -/

namespace Service

/-- Whether a start has been broken off by what was handed on: there is no queue, the loop of the
sink has no ticks, or there are none of the reports that there are to be. -/
def breaksOff (c : Config) : Except ServiceError Service → Bool
  | .ok s => s.loop.crashed || (c.bundle.metricsEnabled && s.nextReport.isNone)
  | .error (.noQueue _) => true
  | .error .tickTooLate => true
  | .error _ => false

def sinkStarts (c : Config) (w : World) : Bool :=
  match c.bundle.backend.destination with
  | .ok b => (Sink.start c.bundle.settings (some b) w).1.toBool
  | .error _ => false

/-- What is handed on is not too large at a time. -/
structure Bounded (c : Config) (now : Nat) : Prop where
  queue : c.bundle.queueSize ≤ Channel.maxCapacity
  tick : isTellable (now + c.bundle.settings.tickInterval) = true
  reports : c.bundle.metricsEnabled = true → isTellable (now + c.bundle.metricsInterval) = true

theorem positive_bounded_iff {c : Config} {now : Nat} :
    c.Positive ∧ Bounded c now ↔ Channel.isCapacity c.bundle.queueSize = true ∧
      (firstTime? now c.bundle.settings.tickInterval).isSome = true ∧
      (c.bundle.metricsEnabled = true →
        (firstTime? now c.bundle.metricsInterval).isSome = true) := by
  have hfirst : ∀ interval, (firstTime? now interval).isSome = true ↔
      0 < interval ∧ isTellable (now + interval) = true := by
    intro interval
    simp [firstTime?, Nat.pos_iff_ne_zero]
  simp only [hfirst, Channel.isCapacity, Bool.and_eq_true, decide_eq_true_eq]
  constructor
  · rintro ⟨positive, bounded⟩
    exact ⟨⟨positive.queue, bounded.queue⟩, ⟨positive.tick, bounded.tick⟩,
      fun enabled => ⟨positive.reports enabled, bounded.reports enabled⟩⟩
  · rintro ⟨queue, tick, reports⟩
    exact ⟨⟨queue.1, tick.1, fun enabled => (reports enabled).1⟩,
      ⟨queue.2, tick.2, fun enabled => (reports enabled).2⟩⟩

theorem loop_start (s : Sink) (capacity : Nat) (w : World) :
    (Loop.start s capacity w).1.crashed = decide (s.settings.tickInterval = 0) ∧
      (Loop.start s capacity w).2.now = w.now := by
  rw [Loop.start]
  split
  · next hzero =>
    rw [decide_eq_true hzero]
    exact ⟨rfl, rfl⟩
  · next hzero =>
    rw [decide_eq_false hzero]
    exact ⟨rfl, rfl⟩

theorem breaksOff_ofSink {c : Config} {s : Sink} (w : World)
    (hsettings : s.settings = c.bundle.settings) :
    breaksOff c (ofSink c s w).1 = true ↔ ¬ (c.Positive ∧ Bounded c w.now) := by
  rw [positive_bounded_iff, ofSink]
  dsimp only
  generalize htold : w.tell (.serviceReady s.display s.bufferDir c.bundle.backend.kind) = w'
  have hnow : w'.now = w.now := by
    rw [← htold]
    rfl
  obtain ⟨hcrashed, hnow'⟩ := loop_start s c.bundle.queueSize w'
  rw [← hnow]
  split
  · next hqueue =>
    refine iff_of_true rfl fun whole => ?_
    rw [whole.1] at hqueue
    exact absurd hqueue (by simp)
  next hqueue =>
  split
  · next htick =>
    refine iff_of_true rfl fun whole => ?_
    have := whole.2.1
    simp [firstTime?, htick] at this
  next htick =>
  simp only [Bool.not_eq_true', Bool.not_eq_false] at hqueue htick
  simp only [breaksOff, hcrashed, hnow', hsettings, hqueue]
  by_cases hzero : c.bundle.settings.tickInterval = 0
  · simp [hzero, firstTime?]
  · cases c.bundle.metricsEnabled <;> simp [hzero, htick, firstTime?]

theorem breaksOff_destination {c : Config} {choice : BackendChoice} {e : ServiceError}
    (h : choice.destination = .error e) : breaksOff c (.error e) = false := by
  cases choice with
  | archive => exact absurd h (by simp [BackendChoice.destination])
  | objectStore url =>
    rw [BackendChoice.destination] at h
    split at h
    · exact absurd h (by simp)
    · rw [Except.error.injEq] at h
      rw [← h]
      rfl

/-- With an accepted configuration, a service breaks off at its start exactly if its sink starts and
something that is handed on is too large. -/
theorem breaksOff_iff {text : Text} {c : Config} (accepted : Config.ofText text = .ok c)
    (w : World) :
    breaksOff c (start c w).1 = true ↔ sinkStarts c w = true ∧ ¬ Bounded c w.now := by
  have positive := Config.positive_of_objection? (Config.objection?_of_ofText accepted)
  rw [start, sinkStarts]
  cases hdestination : c.bundle.backend.destination with
  | error e =>
    dsimp only
    rw [breaksOff_destination hdestination]
    simp
  | ok b =>
    dsimp only
    cases hstart : Sink.start c.bundle.settings (some b) w with
    | mk result w' =>
      cases result with
      | error e => exact iff_of_false (by simp [breaksOff]) (by simp [Except.toBool])
      | ok s =>
        obtain ⟨hnow, hsettings⟩ := Sink.start_now hstart
        dsimp only
        rw [breaksOff_ofSink w' hsettings, hnow]
        simp [positive, Except.toBool]

/-- Whether a text is an accepted configuration, and one that passes a check. -/
def accepts (text : Text) (check : Config → Bool) : Bool :=
  match Config.ofText text with
  | .ok c => check c
  | .error _ => false

theorem exists_of_accepts {text : Text} {check : Config → Bool} (h : accepts text check = true) :
    ∃ c, Config.ofText text = .ok c ∧ check c = true := by
  rw [accepts] at h
  split at h
  · next c hc => exact ⟨c, hc, h⟩
  · exact absurd h (by simp)

/-- The longest queue, and the longest intervals for a service that starts after five seconds. -/
def largest : Text :=
  ("[bundle]\nconnection = \"b:d\"\nqueue_size = 2305843009213693951\n" ++
    "tick_interval = \"9223372036854775802s\"\nmetrics_interval = \"9223372036854775802s\"\n").toList

/-- A world a number of seconds after the start of its clocks. -/
def worldAt (seconds : Nat) : World :=
  { World.fresh ['w'] with now := seconds * Duration.second }

/-- With the same configuration the service goes on if it starts in time, and breaks off a second
later. -/
theorem breaksOff_largest : ∃ c, Config.ofText largest = .ok c ∧
    (sinkStarts c (worldAt 5) = true ∧ breaksOff c (start c (worldAt 5)).1 = false) ∧
    sinkStarts c (worldAt 6) = true ∧ breaksOff c (start c (worldAt 6)).1 = true := by
  have hcheck : accepts largest (fun c => decide (c.bundle.queueSize ≤ Channel.maxCapacity) &&
      isTellable ((worldAt 5).now + c.bundle.settings.tickInterval) &&
      isTellable ((worldAt 5).now + c.bundle.metricsInterval) &&
      !isTellable ((worldAt 6).now + c.bundle.settings.tickInterval) &&
      sinkStarts c (worldAt 5) && sinkStarts c (worldAt 6)) = true := by
    decide +kernel
  obtain ⟨c, accepted, hcheck⟩ := exists_of_accepts hcheck
  simp only [Bool.and_eq_true, Bool.not_eq_true', decide_eq_true_eq] at hcheck
  obtain ⟨⟨⟨⟨⟨queue, tick⟩, reports⟩, late⟩, starts⟩, starts'⟩ := hcheck
  have bounded : Bounded c (worldAt 5).now := ⟨queue, tick, fun _ => reports⟩
  have unbounded : ¬ Bounded c (worldAt 6).now := fun h => by simp [h.tick] at late
  refine ⟨c, accepted, ⟨starts, Bool.eq_false_iff.mpr fun hbreaks => ?_⟩, starts', ?_⟩
  · exact ((breaksOff_iff accepted _).mp hbreaks).2 bounded
  · exact (breaksOff_iff accepted _).mpr ⟨starts', unbounded⟩

/-- A configuration with one setting beside the connection is accepted, and the service breaks off
at its start. -/
def BreaksOffWith (setting : String) : Prop :=
  ∃ c, Config.ofText ("[bundle]\nconnection = \"b:d\"\n" ++ setting).toList = .ok c ∧
    breaksOff c (start c (.fresh ['w'])).1 = true

/-- A configuration can be accepted with a queue that is one too long, or with an interval that is a
second too long. The service then breaks off at its start. -/
theorem accepted_breaksOff :
    BreaksOffWith "queue_size = 2305843009213693952" ∧
      BreaksOffWith "tick_interval = \"9223372036854775808s\"" ∧
      BreaksOffWith "metrics_interval = \"9223372036854775808s\"" := by
  refine ⟨exists_of_accepts ?_, exists_of_accepts ?_, exists_of_accepts ?_⟩
  · decide +kernel
  · decide +kernel
  · decide +kernel

end Service

end Outbox
