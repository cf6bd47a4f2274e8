import Outbox.Sink.Loop
import Outbox.Proofs.Sink.Accounts

/-!
# The loop of a sink

The loop calls its sink in one order, and lets its uploads go on one after the other. All that it
does is a course of the sink, one step after another, as long as it does not break off. So what
holds on every course holds of a sink that runs in its loop, whatever its loop takes in next
(`OnCourse.settle`, `OnCourse.pass`).
-/

set_option autoImplicit false

namespace Outbox

namespace Course

/-- What the steps of a loop need: that time passes and events are told, and that what its uploads
deliver may be delivered. -/
structure Allows (outside deliveries : World → World → Prop) (c₀ : Course) : Prop where
  quiet : ∀ {w w' : World}, w'.disk = w.disk → outside w w'
  turns : ∀ {c : Course} {before after : List Upload} {u : Upload} {source : Handle}
    {stage : Delivery}, Reached outside deliveries c₀ c →
      c.sink.uploads = before ++ u :: after → u.phase = .delivering source stage →
        deliveries c.world (c.turn before u after).world
  releases : ∀ {c : Course} {before after : List Upload} {u : Upload} (action : Action),
    Reached outside deliveries c₀ c → c.sink.uploads = before ++ u :: after →
      deliveries c.world (c.release before u after action).world

/-- A sink in its world is on the course that began as `c₀`. -/
def OnCourse (outside deliveries : World → World → Prop) (c₀ : Course) (s : Sink) (w : World) :
    Prop :=
  ∃ deeds, Reached outside deliveries c₀ { sink := s, world := w, deeds }

variable {outside deliveries : World → World → Prop} {c₀ : Course} {s : Sink} {w w' : World}

theorem OnCourse.output (h : OnCourse outside deliveries c₀ s w) (record : Bytes) :
    OnCourse outside deliveries c₀ (s.output record w).2.1 (s.output record w).2.2 := by
  obtain ⟨deeds, reached⟩ := h
  exact ⟨_, .step reached (.output _ record)⟩

theorem OnCourse.rollOver (h : OnCourse outside deliveries c₀ s w) :
    OnCourse outside deliveries c₀ (s.rollOver w).2.1 (s.rollOver w).2.2 := by
  obtain ⟨deeds, reached⟩ := h
  exact ⟨_, .step reached (.rollOver _)⟩

theorem OnCourse.tick (h : OnCourse outside deliveries c₀ s w) :
    OnCourse outside deliveries c₀ (s.tick w).2.1 (s.tick w).2.2 := by
  obtain ⟨deeds, reached⟩ := h
  exact ⟨_, .step reached (.tick _)⟩

theorem OnCourse.flag (h : OnCourse outside deliveries c₀ s w) (flushWaiting : Bool) :
    OnCourse outside deliveries c₀ { s with flushWaiting } w := by
  obtain ⟨deeds, reached⟩ := h
  exact ⟨_, .step reached (.flag _ flushWaiting)⟩

theorem OnCourse.close (h : OnCourse outside deliveries c₀ s w) :
    OnCourse outside deliveries c₀ { s with live := (s.live.close w).1 } (s.live.close w).2 := by
  obtain ⟨deeds, reached⟩ := h
  exact ⟨_, .step reached (.close _)⟩

theorem OnCourse.settleOutcome {outcome : Outcome} {rest : List Outcome}
    (h : OnCourse outside deliveries c₀ s w) (first : s.outcomes = outcome :: rest) :
    OnCourse outside deliveries c₀ ({ s with outcomes := rest }.settleOutcome outcome w).1
      ({ s with outcomes := rest }.settleOutcome outcome w).2 := by
  obtain ⟨deeds, reached⟩ := h
  exact ⟨_, .step reached (.settle _ outcome rest first)⟩

theorem OnCourse.tell (h : OnCourse outside deliveries c₀ s w)
    (allows : Allows outside deliveries c₀) (event : Event) :
    OnCourse outside deliveries c₀ s (w.tell event) := by
  obtain ⟨deeds, reached⟩ := h
  exact ⟨_, .step reached (.outside _ _ (allows.quiet rfl))⟩

theorem OnCourse.wait (h : OnCourse outside deliveries c₀ s w)
    (allows : Allows outside deliveries c₀) (now : Nat) :
    OnCourse outside deliveries c₀ s { w with now } := by
  obtain ⟨deeds, reached⟩ := h
  exact ⟨_, .step reached (.outside _ _ (allows.quiet rfl))⟩

/-! ### Uploads -/

/-- A turn of an upload that delivers may be a delivery that is allowed, and any other turn is
none. -/
theorem OnCourse.turn {before after : List Upload} {u : Upload}
    (h : OnCourse outside deliveries c₀ s w) (allows : Allows outside deliveries c₀)
    (among : s.uploads = before ++ u :: after) :
    OnCourse outside deliveries c₀
      { s with
        uploads := before ++ (u.turn s.destination w).1 :: after
        destination := (u.turn s.destination w).2.1 }
      (u.turn s.destination w).2.2 := by
  obtain ⟨deeds, reached⟩ := h
  exact ⟨_, .step reached (.turn _ before u after among (allows.turns reached among))⟩

theorem OnCourse.turns {before after : List Upload} {u : Upload}
    (h : OnCourse outside deliveries c₀ s w) (allows : Allows outside deliveries c₀)
    (among : s.uploads = before ++ u :: after) (n : Nat) :
    OnCourse outside deliveries c₀
      { s with
        uploads := before ++ (u.turns n s.destination w).1 :: after
        destination := (u.turns n s.destination w).2.1 }
      (u.turns n s.destination w).2.2 := by
  induction n generalizing s u w with
  | zero =>
    rw [Upload.turns, ← among]
    exact h
  | succ n ih => exact ih (h.turn allows among) rfl

theorem OnCourse.handIn {before after : List Upload} {u : Upload} {outcome : Outcome}
    (h : OnCourse outside deliveries c₀ s w) (among : s.uploads = before ++ u :: after)
    (ended : Sink.outcomeOf u = some outcome) :
    OnCourse outside deliveries c₀
      { s with uploads := before ++ after, outcomes := s.outcomes ++ [outcome] } w := by
  obtain ⟨deeds, reached⟩ := h
  obtain ⟨path, phase⟩ := u
  cases phase with
  | ended result =>
    obtain rfl : Outcome.mk path result = outcome := Option.some.inj ended
    exact ⟨_, .step reached (.handIn _ before ⟨path, .ended result⟩ after result among rfl)⟩
  | _ => exact absurd ended (by simp [Sink.outcomeOf, Upload.result?])

/-- Uploads that go on one after the other, behind others that wait. -/
theorem OnCourse.runUploads {before uploads : List Upload}
    (h : OnCourse outside deliveries c₀ s w) (allows : Allows outside deliveries c₀)
    (among : s.uploads = before ++ uploads) :
    OnCourse outside deliveries c₀
      { s with
        uploads := before ++ (Sink.runUploads uploads s.destination w).1
        outcomes := s.outcomes ++ (Sink.runUploads uploads s.destination w).2.1
        destination := (Sink.runUploads uploads s.destination w).2.2.1 }
      (Sink.runUploads uploads s.destination w).2.2.2 := by
  induction uploads generalizing s w before with
  | nil =>
    simp only [Sink.runUploads, List.append_nil]
    rw [List.append_nil] at among
    rw [← among]
    exact h
  | cons u rest ih =>
    have hrun := h.turns allows among Upload.maxTurns
    rw [Sink.runUploads, Upload.run]
    dsimp only
    generalize u.turns Upload.maxTurns s.destination w = ran at hrun ⊢
    cases hended : Sink.outcomeOf ran.1 with
    | none =>
      have hwaits : before ++ ran.1 :: rest = (before ++ [ran.1]) ++ rest := by simp
      have hrest := ih hrun hwaits
      simpa using hrest
    | some outcome =>
      have hrest := ih (hrun.handIn rfl hended) rfl
      simpa using hrest

theorem OnCourse.advanceUploads (h : OnCourse outside deliveries c₀ s w)
    (allows : Allows outside deliveries c₀) :
    OnCourse outside deliveries c₀ (s.advanceUploads w).1 (s.advanceUploads w).2 :=
  h.runUploads allows (List.nil_append _).symm

/-- An upload that is picked is one of them, and the others are left. -/
theorem among_of_pickHeld {i : Nat} {uploads others : List Upload} {u : Upload}
    (h : Sink.pickHeld i uploads = some (u, others)) :
    ∃ before after, uploads = before ++ u :: after ∧ others = before ++ after := by
  induction uploads generalizing i others with
  | nil => exact absurd h (by simp [Sink.pickHeld])
  | cons first rest ih =>
    have hlater : ∀ {j : Nat},
        (Sink.pickHeld j rest).map (fun picked => (picked.1, first :: picked.2))
          = some (u, others) →
        ∃ before after, first :: rest = before ++ u :: after ∧ others = before ++ after := by
      intro j hmap
      obtain ⟨⟨u', others'⟩, hpick, hpicked⟩ := Option.map_eq_some_iff.mp hmap
      simp only [Prod.mk.injEq] at hpicked
      obtain ⟨rfl, rfl⟩ := hpicked
      obtain ⟨before, after, rfl, rfl⟩ := ih hpick
      exact ⟨first :: before, after, rfl, rfl⟩
    cases hheld : first.isHeld with
    | false =>
      simp only [Sink.pickHeld, hheld] at h
      exact hlater h
    | true =>
      cases i with
      | zero =>
        simp only [Sink.pickHeld, hheld, Option.some.injEq, Prod.mk.injEq] at h
        obtain ⟨rfl, rfl⟩ := h
        exact ⟨[], rest, rfl, rfl⟩
      | succ i =>
        simp only [Sink.pickHeld, hheld] at h
        exact hlater h

theorem OnCourse.release {i : Nat} {action : Action} {s' : Sink}
    (h : OnCourse outside deliveries c₀ s w) (allows : Allows outside deliveries c₀)
    (hrelease : s.release i action w = some (s', w')) :
    OnCourse outside deliveries c₀ s' w' := by
  obtain ⟨⟨u, others⟩, hpick, hresult⟩ := Option.map_eq_some_iff.mp hrelease
  obtain ⟨before, after, among, rfl⟩ := among_of_pickHeld hpick
  simp only [Prod.mk.injEq] at hresult
  obtain ⟨rfl, rfl⟩ := hresult
  obtain ⟨deeds, reached⟩ := h
  exact ⟨_, .step reached
    (.release _ before u after action among (allows.releases action reached among))⟩

end Course

namespace Loop

open Course (Allows)

/-! ### What the loop takes in -/

/-- A loop in its world whose sink is on a course, unless the loop has broken off. -/
def OnCourse (outside deliveries : World → World → Prop) (c₀ : Course) (state : Loop × World) :
    Prop :=
  state.1.crashed = false → Course.OnCourse outside deliveries c₀ state.1.sink state.2

variable {outside deliveries : World → World → Prop} {c₀ : Course} {l : Loop} {w : World}

theorem onCourse_crash (l : Loop) (w : World) : OnCourse outside deliveries c₀ (l.crash, w) :=
  fun going => absurd going (by simp [crash])

theorem OnCourse.tell (h : OnCourse outside deliveries c₀ (l, w))
    (allows : Allows outside deliveries c₀) (event : Event) :
    OnCourse outside deliveries c₀ (l, w.tell event) :=
  fun going => (h going).tell allows event

theorem OnCourse.wait (h : OnCourse outside deliveries c₀ (l, w))
    (allows : Allows outside deliveries c₀) (now : Nat) :
    OnCourse outside deliveries c₀ (l, { w with now }) :=
  fun going => (h going).wait allows now

theorem OnCourse.stop (h : OnCourse outside deliveries c₀ (l, w))
    (allows : Allows outside deliveries c₀) : OnCourse outside deliveries c₀ (l.stop w) :=
  fun going => ((h going).close.flag false).tell allows _

theorem OnCourse.fail (h : OnCourse outside deliveries c₀ (l, w))
    (allows : Allows outside deliveries c₀) (e : SinkError) :
    OnCourse outside deliveries c₀ (l.fail e w) := by
  rw [Loop.fail]
  split
  · exact onCourse_crash l w
  · dsimp only
    split
    · have hfatal : OnCourse outside deliveries c₀ ({ l with fatal := some e }, w) := h
      exact (hfatal.tell allows _).stop allows
    · exact ((h.tell allows _).tell allows _).stop allows

theorem onCourse_follow {α : Type} {result : Except SinkError α × Sink × World}
    (allows : Allows outside deliveries c₀)
    (h : l.crashed = false → Course.OnCourse outside deliveries c₀ result.2.1 result.2.2) :
    OnCourse outside deliveries c₀ (l.follow result) := by
  obtain ⟨e | a, s, w⟩ := result
  · have hsink : OnCourse outside deliveries c₀ ({ l with sink := s }, w) := h
    exact hsink.fail allows e
  · exact h

theorem OnCourse.receive (h : OnCourse outside deliveries c₀ (l, w))
    (allows : Allows outside deliveries c₀) : OnCourse outside deliveries c₀ (l.receive w) := by
  rw [Loop.receive]
  split
  · exact h
  · next record records htake =>
    exact onCourse_follow allows fun going => (h going).output record

theorem OnCourse.receiveAll (h : OnCourse outside deliveries c₀ (l, w))
    (allows : Allows outside deliveries c₀) (n : Nat) :
    OnCourse outside deliveries c₀ (Loop.receiveAll n l w) := by
  induction n generalizing l w with
  | zero => exact h
  | succ n ih =>
    rw [Loop.receiveAll]
    split
    · exact ih (h.receive allows)
    · exact h

theorem OnCourse.endOfRecords (h : OnCourse outside deliveries c₀ (l, w))
    (allows : Allows outside deliveries c₀) :
    OnCourse outside deliveries c₀ (l.endOfRecords w) :=
  (h.tell allows _).stop allows

theorem OnCourse.flush (h : OnCourse outside deliveries c₀ (l, w))
    (allows : Allows outside deliveries c₀) : OnCourse outside deliveries c₀ (l.flush w) :=
  onCourse_follow allows fun going => (((h going).flag false).tell allows _).rollOver

theorem OnCourse.tick (h : OnCourse outside deliveries c₀ (l, w))
    (allows : Allows outside deliveries c₀) : OnCourse outside deliveries c₀ (l.tick w) :=
  onCourse_follow allows fun going => (h going).tick

theorem OnCourse.takeOutcome (h : OnCourse outside deliveries c₀ (l, w)) :
    OnCourse outside deliveries c₀ (l.takeOutcome w) := by
  rw [Loop.takeOutcome]
  split
  · exact h
  · next outcome rest first =>
    dsimp only
    split
    · exact onCourse_crash _ w
    · exact fun going => (h going).settleOutcome first

theorem OnCourse.takeOutcomes (h : OnCourse outside deliveries c₀ (l, w)) :
    OnCourse outside deliveries c₀ (l.takeOutcomes w) := by
  rw [Loop.takeOutcomes]
  generalize List.range l.sink.outcomes.length = turns
  induction turns generalizing l w with
  | nil => exact h
  | cons turn rest ih =>
    rw [List.foldl_cons]
    split
    · exact ih h.takeOutcome
    · exact ih h

/-- Records are written out one after the other, up to one that fails. -/
theorem onCourse_writeAll {s : Sink} (h : Course.OnCourse outside deliveries c₀ s w)
    (records : List Bytes) (n : Nat) :
    Course.OnCourse outside deliveries c₀ (writeAll records n s w).2.1
      (writeAll records n s w).2.2 := by
  induction records generalizing s w n with
  | nil => exact h
  | cons record rest ih =>
    have houtput := h.output record
    rw [writeAll]
    split
    · next e s' w' hresult => rwa [hresult] at houtput
    · next s' w' hresult =>
      rw [hresult] at houtput
      exact ih houtput (n + 1)

theorem OnCourse.drain (h : OnCourse outside deliveries c₀ (l, w))
    (allows : Allows outside deliveries c₀) : OnCourse outside deliveries c₀ (l.drain w) := by
  have hwritten := fun going => onCourse_writeAll
    ((h going).tell allows (.cancelled l.sink.display)) l.records.queue 0
  rw [Loop.drain]
  generalize writeAll l.records.queue 0 l.sink (w.tell (.cancelled l.sink.display)) = written
    at hwritten ⊢
  obtain ⟨e | n, s, w'⟩ := written
  · have hsink : OnCourse outside deliveries c₀
        ({ l with sink := s, records := l.records.drop }, w') := hwritten
    exact hsink.fail allows e
  · have hsink : OnCourse outside deliveries c₀
        ({ l with sink := s, records := l.records.drop }, w') := hwritten
    dsimp only
    split
    · exact hsink.stop allows
    · exact (hsink.tell allows _).stop allows

theorem OnCourse.settleInputs (h : OnCourse outside deliveries c₀ (l, w))
    (allows : Allows outside deliveries c₀) :
    OnCourse outside deliveries c₀ (l.settleInputs w) := by
  have hreceived := h.receiveAll allows l.records.queue.length
  rw [Loop.settleInputs]
  generalize Loop.receiveAll l.records.queue.length l w = received at hreceived ⊢
  obtain ⟨l', w'⟩ := received
  dsimp only
  split
  · exact h
  · split
    · exact h.drain allows
    · split
      · exact hreceived
      · split
        · exact hreceived.endOfRecords allows
        · split
          · exact hreceived.flush allows
          · exact hreceived

/-- All that a loop does without time is on the course of its sink. -/
theorem OnCourse.settle (h : OnCourse outside deliveries c₀ (l, w))
    (allows : Allows outside deliveries c₀) : OnCourse outside deliveries c₀ (l.settle w) := by
  have hinputs := h.settleInputs allows
  rw [Loop.settle]
  generalize l.settleInputs w = inputs at hinputs ⊢
  obtain ⟨l', w'⟩ := inputs
  have hadvanced : OnCourse outside deliveries c₀
      ({ l' with sink := (l'.sink.advanceUploads w').1 }, (l'.sink.advanceUploads w').2) :=
    fun going => (hinputs going).advanceUploads allows
  dsimp only
  split
  · exact hadvanced.takeOutcomes
  · exact hadvanced

theorem OnCourse.passTo (h : OnCourse outside deliveries c₀ (l, w))
    (allows : Allows outside deliveries c₀) (target ticks : Nat) :
    OnCourse outside deliveries c₀ (Loop.passTo target ticks l w) := by
  induction ticks generalizing l w with
  | zero => exact h.wait allows target
  | succ ticks ih =>
    rw [Loop.passTo]
    split
    · exact ih (((h.wait allows _).tick allows).settle allows)
    · exact h.wait allows target

/-- All that a loop does while time passes is on the course of its sink. -/
theorem OnCourse.pass (h : OnCourse outside deliveries c₀ (l, w))
    (allows : Allows outside deliveries c₀) (nanos : Nat) :
    OnCourse outside deliveries c₀ (l.pass nanos w) :=
  h.passTo allows _ _

theorem OnCourse.requestFlush (h : OnCourse outside deliveries c₀ (l, w)) :
    OnCourse outside deliveries c₀ (l.requestFlush.2, w) := by
  rw [Loop.requestFlush]
  split
  · exact fun going => (h going).flag true
  · exact h

theorem onCourse_start {s : Sink} (h : Course.OnCourse outside deliveries c₀ s w)
    (allows : Allows outside deliveries c₀) (capacity : Nat) :
    OnCourse outside deliveries c₀ (Loop.start s capacity w) := by
  rw [Loop.start]
  split
  · exact onCourse_crash _ w
  · exact fun _ => h.tell allows _

/-- The files of a sink that runs in its loop are accounted for. -/
theorem OnCourse.accounts {settings : Settings} {destination : Option Destination} {s : Sink}
    {w₀ w₁ : World} (start : Sink.start settings destination w₀ = (.ok s, w₁))
    (h : OnCourse outside deliveries { sink := s, world := w₁, deeds := [] } (l, w))
    (going : l.crashed = false) :
    ∃ deeds, Course.Accounts s.pending { sink := l.sink, world := w, deeds } := by
  obtain ⟨_, b, _, w₂, -, -, -, -, hopen⟩ := Sink.start_ok start
  obtain ⟨deeds, reached⟩ := h going
  exact ⟨deeds, (Course.accounts_of_openLive hopen).reached reached⟩

end Loop

end Outbox
