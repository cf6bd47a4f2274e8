import Outbox.Proofs.Reader.Transfer
import Outbox.Proofs.Sink.Interleavings
import Outbox.Service

/-!
# The books of a service

The reader of a service forwards records, and the loop of its sink takes them in. Neither waits for
the other as long as there is room in between, and a shutdown may be requested at any moment, so
also while records are queued. The books of a service are the ledger of its loop together with the
rest of the service. They go on step by step in any order (`Books.Step`); the order in which a
service settles is one of them (`Books.leads_settle`, `Books.leads_pass`).
-/

set_option autoImplicit false

namespace Outbox

/-! ### What a loop is told -/

namespace Loop

/-- A loop has been told nothing new: whether there will be more records, whether to stop, and
whether anyone hears of an error. -/
structure Told (l l' : Loop) : Prop where
  finished : l'.records.finished = l.records.finished
  cancelled : l'.cancelled = l.cancelled
  heard : l'.errorHeard = l.errorHeard

variable {l l' l'' : Loop}

theorem Told.refl (l : Loop) : Told l l := ⟨rfl, rfl, rfl⟩

theorem Told.trans (h : Told l l') (h' : Told l' l'') : Told l l'' :=
  ⟨h'.finished.trans h.finished, h'.cancelled.trans h.cancelled, h'.heard.trans h.heard⟩

theorem Told.stop (h : Told l l') (w : World) : Told l (l'.stop w).1 :=
  ⟨h.finished, h.cancelled, h.heard⟩

theorem Told.fail (h : Told l l') (e : SinkError) (w : World) : Told l (l'.fail e w).1 := by
  rw [Loop.fail]
  split
  · exact ⟨h.finished, h.cancelled, h.heard⟩
  · dsimp only
    split <;> exact ⟨h.finished, h.cancelled, h.heard⟩

theorem Told.follow {α : Type} (h : Told l l') (result : Except SinkError α × Sink × World) :
    Told l (l'.follow result).1 := by
  obtain ⟨e | _, s, w⟩ := result
  · have told : Told l { l' with sink := s } := ⟨h.finished, h.cancelled, h.heard⟩
    exact told.fail e w
  · exact ⟨h.finished, h.cancelled, h.heard⟩

theorem told_receive (l : Loop) (w : World) : Told l (l.receive w).1 := by
  rw [receive]
  split
  · exact .refl l
  · next record records first =>
    have told : Told l { l with records } :=
      ⟨by rw [(Channel.take?_some first).2], rfl, rfl⟩
    exact told.follow _

theorem told_receiveAll (n : Nat) (l : Loop) (w : World) : Told l (receiveAll n l w).1 := by
  induction n generalizing l w with
  | zero => exact .refl l
  | succ n ih =>
    rw [receiveAll]
    split
    · exact (told_receive l w).trans (ih _ _)
    · exact .refl l

theorem told_flush (l : Loop) (w : World) : Told l (l.flush w).1 := by
  have told : Told l { l with sink := { l.sink with flushWaiting := false } } := ⟨rfl, rfl, rfl⟩
  exact told.follow _

theorem told_tick (l : Loop) (w : World) : Told l (l.tick w).1 := by
  have told : Told l { l with nextTick := l.nextTick + l.sink.settings.tickInterval } :=
    ⟨rfl, rfl, rfl⟩
  exact told.follow _

theorem told_takeOutcome (l : Loop) (w : World) : Told l (l.takeOutcome w).1 := by
  rw [takeOutcome]
  split
  · exact .refl l
  · dsimp only
    split <;> exact ⟨rfl, rfl, rfl⟩

theorem told_takeOutcomes (l : Loop) (w : World) : Told l (l.takeOutcomes w).1 := by
  rw [takeOutcomes]
  generalize List.range l.sink.outcomes.length = turns
  induction turns generalizing l w with
  | nil => exact .refl l
  | cons turn rest ih =>
    rw [List.foldl_cons]
    split
    · exact (told_takeOutcome l w).trans (ih _ _)
    · exact ih l w

theorem told_drain (l : Loop) (w : World) : Told l (l.drain w).1 := by
  rw [drain]
  split
  · next e s w' _ =>
    have told : Told l { l with sink := s, records := l.records.drop } := ⟨rfl, rfl, rfl⟩
    exact told.fail e w'
  · exact ⟨rfl, rfl, rfl⟩

theorem told_settleInputs (l : Loop) (w : World) : Told l (l.settleInputs w).1 := by
  rw [settleInputs]
  split
  · exact .refl l
  split
  · exact told_drain l w
  have told := told_receiveAll l.records.queue.length l w
  generalize receiveAll l.records.queue.length l w = state at told
  obtain ⟨l', w'⟩ := state
  dsimp only
  split
  · exact told
  split
  · exact told.stop _
  split
  · exact told.trans (told_flush l' w')
  · exact told

theorem told_settle (l : Loop) (w : World) : Told l (l.settle w).1 := by
  have told := told_settleInputs l w
  rw [settle]
  generalize l.settleInputs w = state at told
  obtain ⟨l', w'⟩ := state
  have advanced : Told l { l' with sink := (l'.sink.advanceUploads w').1 } :=
    told.trans ⟨rfl, rfl, rfl⟩
  dsimp only
  split
  · exact advanced.trans (told_takeOutcomes _ _)
  · exact advanced

theorem told_passTo (target ticks : Nat) (l : Loop) (w : World) :
    Told l (passTo target ticks l w).1 := by
  induction ticks generalizing l w with
  | zero => exact .refl l
  | succ ticks ih =>
    rw [passTo]
    split
    · exact ((told_tick l _).trans (told_settle _ _)).trans (ih _ _)
    · exact .refl l

theorem told_pass (l : Loop) (nanos : Nat) (w : World) : Told l (l.pass nanos w).1 :=
  told_passTo _ _ l w

theorem told_requestFlush (l : Loop) : Told l l.requestFlush.2 := by
  rw [requestFlush]
  split <;> exact ⟨rfl, rfl, rfl⟩

end Loop

/-! ### Steps that a loop makes by itself -/

namespace Ledger

variable {t t' t'' : Ledger}

/-- A loop has gone on by itself: it was told nothing, and nothing was sent. -/
structure Untold (t t' : Ledger) : Prop where
  sent : t'.sent = t.sent
  told : t.loop.Told t'.loop

/-- What is sent stays sent, and what was told is not taken back. -/
structure Extends (t t' : Ledger) : Prop where
  sent : t.sent <+: t'.sent
  finished : t.loop.records.finished = true → t'.loop.records.finished = true
  cancelled : t.loop.cancelled = true → t'.loop.cancelled = true
  heard : t'.loop.errorHeard = true → t.loop.errorHeard = true

theorem Untold.extends (h : Untold t t') : Extends t t' :=
  ⟨h.sent ▸ List.prefix_rfl, h.told.finished.trans, h.told.cancelled.trans,
    h.told.heard.symm.trans⟩

theorem Extends.refl (t : Ledger) : Extends t t := ⟨List.prefix_rfl, id, id, id⟩

theorem Extends.trans (h : Extends t t') (h' : Extends t' t'') : Extends t t'' :=
  ⟨h.sent.trans h'.sent, h'.finished ∘ h.finished, h'.cancelled ∘ h.cancelled, h.heard ∘ h'.heard⟩

/-- Of steps that come back to what was sent and told at first, each one is made alone. -/
theorem Extends.untold (h : Extends t t') (h' : Extends t' t'') (untold : Untold t t'') :
    Untold t t' ∧ Untold t' t'' := by
  have sent : t'.sent = t.sent := by
    refine (h.sent.eq_of_length_le ?_).symm
    rw [← untold.sent]
    exact h'.sent.length_le
  have finished : t'.loop.records.finished = t.loop.records.finished :=
    Bool.eq_iff_iff.mpr ⟨fun hf => untold.told.finished.symm.trans (h'.finished hf), h.finished⟩
  have cancelled : t'.loop.cancelled = t.loop.cancelled :=
    Bool.eq_iff_iff.mpr ⟨fun hc => untold.told.cancelled.symm.trans (h'.cancelled hc), h.cancelled⟩
  have heard : t'.loop.errorHeard = t.loop.errorHeard :=
    Bool.eq_iff_iff.mpr ⟨h.heard, fun hh => h'.heard (untold.told.heard.trans hh)⟩
  exact ⟨⟨sent, finished, cancelled, heard⟩, ⟨untold.sent.trans sent.symm,
    untold.told.finished.trans finished.symm, untold.told.cancelled.trans cancelled.symm,
    untold.told.heard.trans heard.symm⟩⟩

theorem Step.extends (step : Step t t') : Extends t t' := by
  have alone : ∀ {t' : Ledger}, t'.sent = t.sent → t.loop.Told t'.loop → Extends t t' :=
    fun sent told => Untold.extends ⟨sent, told⟩
  cases step with
  | send record records more room =>
    refine ⟨List.prefix_append _ _, fun finished => ?_, id, id⟩
    exact absurd (more.symm.trans finished) (by simp)
  | finish => exact ⟨List.prefix_rfl, fun _ => rfl, id, id⟩
  | cancel => exact ⟨List.prefix_rfl, id, fun _ => rfl, id⟩
  | requestFlush => exact alone rfl t.loop.told_requestFlush
  | unhear => exact ⟨List.prefix_rfl, id, id, fun heard => absurd heard (by simp)⟩
  | others uploads outcomes destination world => exact alone rfl ⟨rfl, rfl, rfl⟩
  | receive record records running first => exact alone rfl (t.loop.told_receive _)
  | tick running open' => exact alone rfl (t.loop.told_tick _)
  | flush running open' waiting => exact alone rfl (t.loop.told_flush _)
  | takeOutcome running open' => exact alone rfl (t.loop.told_takeOutcome _)
  | endOfRecords running open' none last => exact alone rfl ((Loop.Told.refl _).stop _)
  | drain running open' cancelled => exact alone rfl ⟨rfl, rfl, rfl⟩
  | drained w running draining none => exact alone rfl ((Loop.Told.refl _).stop _)

theorem Run.extends (run : Run t t') : Extends t t' := by
  induction run with
  | refl => exact .refl t
  | tail _ step ih => exact ih.trans step.extends

end Ledger

/-! ### Services that start -/

namespace Service

/-- A service has started with a sink in its world: its loop starts, and nothing has happened to
it. -/
structure Starts (c : Config) (w₀ : World) (sink : Sink) (w₁ : World) (s : Service) (w : World) :
    Prop where
  started : ∃ destination w₂, Sink.start c.bundle.settings (some destination) w₀ = (.ok sink, w₂) ∧
    w₁ = w₂.tell (.serviceReady sink.display sink.bufferDir c.bundle.backend.kind)
  loop : (s.loop, w) = Loop.start sink c.bundle.queueSize w₁
  reader : s.reader = .start
  unasked : s.shutdown = false
  outcome : s.outcome = none

theorem Starts.loop_eq {c : Config} {w₀ w₁ w : World} {sink : Sink} {s : Service}
    (h : Starts c w₀ sink w₁ s w) : s.loop = (Loop.start sink c.bundle.queueSize w₁).1 :=
  congrArg Prod.fst h.loop

theorem starts_of_start {c : Config} {s : Service} {w₀ w : World}
    (start : start c w₀ = (.ok s, w)) : ∃ sink w₁, Starts c w₀ sink w₁ s w := by
  rw [Service.start] at start
  split at start
  · exact absurd start (by simp)
  next destination _ =>
  split at start
  · exact absurd start (by simp)
  next sink w₂ started =>
  rw [ofSink] at start
  dsimp only at start
  split at start
  · exact absurd start (by simp)
  split at start
  · exact absurd start (by simp)
  simp only [Prod.mk.injEq, Except.ok.injEq] at start
  obtain ⟨rfl, rfl⟩ := start
  exact ⟨sink, _, ⟨destination, w₂, started, rfl⟩, rfl, rfl, rfl, rfl⟩

end Service

/-! ### Books -/

/-- The books of a service: the ledger of its loop, and the rest of it. -/
structure Books extends Ledger where
  config : Config
  reader : Reader
  nextReport : Option Nat
  shutdown : Bool
  outcome : Option (Except ServiceError Report)

namespace Books

def service (b : Books) : Service :=
  { config := b.config, loop := b.loop, reader := b.reader, nextReport := b.nextReport
    shutdown := b.shutdown, outcome := b.outcome }

def opened (s : Service) (w : World) : Books :=
  { loop := s.loop, world := w, sent := [], passed := [], done := [], offered := []
    draining := false, config := s.config, reader := s.reader, nextReport := s.nextReport
    shutdown := s.shutdown, outcome := s.outcome }

/-- The reader makes a step, and forwards a record if it can. -/
def forward (b : Books) : Books :=
  let after := b.reader.step b.loop.records
  { b with
    loop := { b.loop with records := after.2 }
    reader := after.1
    sent := b.sent ++ after.2.queue.drop b.loop.records.queue.length }

def conclude (b : Books) : Books :=
  let after := b.service.conclude b.world
  { b with world := after.2, reader := after.1.reader, outcome := after.1.outcome }

/-- One step of a service: something comes from outside, or the reader, the loop or the service
itself goes on. A reader may stop at any time once the loop is told to stop, and a reader that has
finished may be gone at any time. -/
inductive Step : Books → Books → Prop where
  | feed (b : Books) (bytes : Bytes) : Step b { b with reader := b.reader.feed bytes }
  | endInput (b : Books) : Step b { b with reader := b.reader.finish }
  | failInput (b : Books) (cause : IoError) : Step b { b with reader := b.reader.fail cause }
  | shutDown (b : Books) (going : b.outcome = none) :
      Step b { b with loop := { b.loop with cancelled := true }, shutdown := true }
  | forward (b : Books) : Step b b.forward
  | stopReader (b : Books) (told : b.loop.cancelled = true) :
      Step b { b with reader := b.reader.cancel }
  | dropReader (b : Books) (finished : b.reader.result.isSome = true) :
      Step b { b with loop := { b.loop with records := b.loop.records.finish } }
  | goOn (b : Books) (t : Ledger) (step : Ledger.Step b.toLedger t)
      (untold : Ledger.Untold b.toLedger t) : Step b { b with toLedger := t }
  | plan (b : Books) (nextReport : Option Nat) : Step b { b with nextReport }
  | conclude (b : Books) : Step b b.conclude

abbrev Run : Books → Books → Prop :=
  Relation.ReflTransGen Step

variable {b : Books}

/-- What a loop does by itself is done by its service. -/
theorem run_of_ledger {t : Ledger} (run : Ledger.Run b.toLedger t)
    (untold : Ledger.Untold b.toLedger t) : Run b { b with toLedger := t } := by
  induction run with
  | refl => exact .refl
  | @tail t₁ t₂ run step ih =>
    obtain ⟨before, after⟩ := (Ledger.Run.extends run).untold step.extends untold
    exact (ih before).tail (.goOn { b with toLedger := t₁ } t₂ step after)

/-! ### The order in which a service settles -/

/-- A service in its world comes from another by steps. -/
def Leads (before after : Service × World) : Prop :=
  ∀ b : Books, b.service = before.1 → b.world = before.2 → b.toLedger.Open →
    ∃ b', Run b b' ∧ b'.service = after.1 ∧ b'.world = after.2 ∧ b'.toLedger.Open

variable {s : Service} {w : World}

theorem Leads.refl (state : Service × World) : Leads state state :=
  fun b hservice hworld hopen => ⟨b, .refl, hservice, hworld, hopen⟩

theorem Leads.trans {before between after : Service × World} (h : Leads before between)
    (h' : Leads between after) : Leads before after := by
  intro b hservice hworld hopen
  obtain ⟨b₁, run₁, hservice₁, hworld₁, hopen₁⟩ := h b hservice hworld hopen
  obtain ⟨b₂, run₂, hservice₂, hworld₂, hopen₂⟩ := h' b₁ hservice₁ hworld₁ hopen₁
  exact ⟨b₂, run₁.trans run₂, hservice₂, hworld₂, hopen₂⟩

theorem leads_loop {l : Loop} {w' : World} (h : Ledger.Leads (s.loop, w) (l, w'))
    (told : s.loop.Told l) : Leads (s, w) ({ s with loop := l }, w') := by
  rintro b rfl rfl hopen
  obtain ⟨t, run, hloop, hworld, hsent, hopen'⟩ := h b.toLedger rfl rfl hopen
  subst hloop
  exact ⟨{ b with toLedger := t }, run_of_ledger run ⟨hsent, told⟩, rfl, hworld, hopen'⟩

theorem leads_world (s : Service) (w w' : World) : Leads (s, w) (s, w') :=
  leads_loop (Ledger.leads_world s.loop w w') (.refl s.loop)

theorem leads_step (s : Service) (w : World) :
    Leads (s, w) ({ s with
      reader := (s.reader.step s.loop.records).1
      loop := { s.loop with records := (s.reader.step s.loop.records).2 } }, w) := by
  rintro b rfl rfl hopen
  exact ⟨b.forward, .single (.forward b), rfl, rfl, hopen⟩

theorem leads_steps (n : Nat) (s : Service) (w : World) :
    Leads (s, w) ({ s with
      reader := (s.reader.steps n s.loop.records).1
      loop := { s.loop with records := (s.reader.steps n s.loop.records).2 } }, w) := by
  induction n generalizing s with
  | zero => exact .refl _
  | succ n ih => exact (leads_step s w).trans (ih _)

theorem leads_run (s : Service) (w : World) :
    Leads (s, w) ({ s with
      reader := (s.reader.run s.loop.records).1
      loop := { s.loop with records := (s.reader.run s.loop.records).2 } }, w) :=
  leads_steps _ s w

theorem leads_pump (rounds : Nat) (s : Service) (w : World) :
    Leads (s, w) (Service.pump rounds s w) := by
  induction rounds generalizing s w with
  | zero => exact .refl _
  | succ rounds ih =>
    rw [Service.pump]
    refine (leads_run s w).trans ?_
    dsimp only
    split
    · refine .trans ?_ (ih _ _)
      exact leads_loop (Ledger.leads_receiveAll _ _ w) (Loop.told_receiveAll _ _ w)
    · exact .refl _

theorem leads_conclude (s : Service) (w : World) : Leads (s, w) (s.conclude w) := by
  rintro b rfl rfl hopen
  refine ⟨b.conclude, .single (.conclude b), ?_, rfl, hopen⟩
  rw [Books.conclude, Service.conclude]
  split <;> rfl

theorem leads_settle (s : Service) (w : World) : Leads (s, w) (s.settle w) := by
  refine (leads_pump (s.reader.ready.length + 1) s w).trans ?_
  rw [Service.settle]
  generalize Service.pump (s.reader.ready.length + 1) s w = state
  obtain ⟨s', w'⟩ := state
  refine .trans ?_ (leads_conclude _ _)
  exact leads_loop (Ledger.leads_settle s'.loop w') (s'.loop.told_settle w')

/-! ### What is done with a service -/

/-- Something comes to the reader from outside, and the service settles. -/
theorem leads_reader {reader : Reader} (w : World)
    (step : ∀ b : Books, b.reader = s.reader → Step b { b with reader }) :
    Leads (s, w) ({ s with reader }.settle w) := by
  refine .trans ?_ (leads_settle _ w)
  rintro b rfl rfl hopen
  exact ⟨_, .single (step b rfl), rfl, rfl, hopen⟩

theorem leads_feed (s : Service) (bytes : Bytes) (w : World) :
    Leads (s, w) (s.feed bytes w) := by
  rw [Service.feed]
  split
  · exact .refl _
  · exact leads_reader w fun b same => same ▸ .feed b bytes

theorem leads_endInput (s : Service) (w : World) : Leads (s, w) (s.endInput w) := by
  rw [Service.endInput]
  split
  · exact .refl _
  · exact leads_reader w fun b same => same ▸ .endInput b

theorem leads_failInput (s : Service) (cause : IoError) (w : World) :
    Leads (s, w) (s.failInput cause w) := by
  rw [Service.failInput]
  split
  · exact .refl _
  · exact leads_reader w fun b same => same ▸ .failInput b cause

theorem leads_requestFlush (s : Service) (w : World) : Leads (s, w) (s.requestFlush w) := by
  rw [Service.requestFlush]
  split
  · exact .refl _
  refine (leads_loop (Ledger.leads_requestFlush s.loop w) s.loop.told_requestFlush).trans ?_
  exact (leads_world _ w _).trans (leads_settle _ _)

theorem leads_requestShutdown (s : Service) (w : World) : Leads (s, w) (s.requestShutdown w) := by
  rw [Service.requestShutdown]
  split
  · exact .refl _
  next going =>
  refine .trans ?_ ((leads_world _ w _).trans (leads_settle _ _))
  rintro b rfl rfl hopen
  have hgoing : b.outcome = none := by simpa [Service.hasEnded, service] using going
  have asked := Step.shutDown b hgoing
  exact ⟨_, (Relation.ReflTransGen.single asked).tail (.stopReader _ rfl), rfl, rfl, hopen⟩

theorem leads_plan (s : Service) (nextReport : Option Nat) (w : World) :
    Leads (s, w) ({ s with nextReport }, w) := by
  rintro b rfl rfl hopen
  exact ⟨_, .single (.plan b nextReport), rfl, rfl, hopen⟩

theorem leads_loopPass (nanos : Nat) (s : Service) (w : World) :
    Leads (s, w) ({ s with loop := (s.loop.pass nanos w).1 }, (s.loop.pass nanos w).2) :=
  leads_loop (Ledger.leads_pass s.loop nanos w) (s.loop.told_pass nanos w)

theorem leads_passTo (target reports : Nat) (s : Service) (w : World) :
    Leads (s, w) (Service.passTo target reports s w) := by
  have atOnce (s : Service) (w : World) : Leads (s, w) (Service.passTo target 0 s w) := by
    refine (leads_loopPass (target - w.now) s w).trans ?_
    rw [Service.passTo]
    exact leads_conclude _ _
  induction reports generalizing s w with
  | zero => exact atOnce s w
  | succ reports ih =>
    rw [Service.passTo]
    split
    · next due _ =>
      split
      · refine (leads_loopPass (due - w.now) s w).trans ?_
        exact (leads_plan _ _ _).trans ((leads_world _ _ _).trans (ih _ _))
      · exact atOnce s w
    · exact atOnce s w

/-- All that a service does while time passes is a run. -/
theorem leads_pass (s : Service) (nanos : Nat) (w : World) : Leads (s, w) (s.pass nanos w) :=
  leads_passTo _ _ s w

end Books

end Outbox
