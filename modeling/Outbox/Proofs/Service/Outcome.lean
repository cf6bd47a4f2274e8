import Outbox.Proofs.Service.Books
import Outbox.Proofs.Service.Startup

/-!
# What a service comes to

In whatever order the steps of a service are made, one that comes to an error of its sink comes to
the error that its loop has stopped on, and it does so unless a shutdown was requested before it
came to anything; without an error of the loop all records that were forwarded have been written
(`Books.answered`). With a shutdown the error is passed over, and the service can come to a good end
although a record is lost (`Books.error_passed_over`).
-/

set_option autoImplicit false

namespace Outbox

open Sink (Operation Done performAll written)

namespace Ledger

variable {t t' : Ledger}

/-! ### Errors of a loop -/

/-- What becomes of a running loop: a call of its sink, or else no error that it would stop on. A
loop that has stopped remains as it is. -/
inductive Becomes (t : Ledger) : Ledger → Prop
  | calls (running : t.loop.isRunning = true) (l : Loop) (plan : List Operation) (s : Sink)
      (w : World) (taken : List Bytes) (going : l.isRunning = true)
      (fatal : l.fatal = t.loop.fatal) :
      Becomes t (t.call plan s w taken (l.follow (performAll plan s w).2))
  | ends {t' : Ledger} (running : t.loop.isRunning = true) (fatal : t'.loop.fatal = t.loop.fatal) :
      Becomes t t'
  | rests {t' : Ledger} (fatal : t'.loop.fatal = t.loop.fatal)
      (final : t'.loop.final = t.loop.final)
      (crashed : t'.loop.crashed = t.loop.crashed) (offered : t'.offered = t.offered) : Becomes t t'

theorem Step.becomes (step : Step t t') : t.Becomes t' := by
  cases step with
  | send record records more room => exact .rests rfl rfl rfl rfl
  | finish => exact .rests rfl rfl rfl rfl
  | cancel => exact .rests rfl rfl rfl rfl
  | requestFlush =>
    rw [Loop.requestFlush]
    split <;> exact .rests rfl rfl rfl rfl
  | unhear => exact .rests rfl rfl rfl rfl
  | others uploads outcomes destination world => exact .rests rfl rfl rfl rfl
  | receive record records running first =>
    rw [receive_follow first]
    exact .calls running _ _ _ _ _ running rfl
  | tick running open' =>
    rw [tick_follow]
    exact .calls running _ _ _ _ _ running rfl
  | flush running open' waiting =>
    rw [flush_follow]
    exact .calls running _ _ _ _ _ running rfl
  | takeOutcome running open' =>
    refine .ends running ?_
    rw [Loop.takeOutcome]
    split
    · rfl
    · dsimp only
      split <;> rfl
  | endOfRecords running open' none last => exact .ends running rfl
  | drain running open' cancelled => exact .rests rfl rfl rfl rfl
  | drained w running draining none => exact .ends running rfl

/-- An error is heard of when the loop has stopped on it, and it is the one that was offered. -/
def Faulted (t : Ledger) : Prop :=
  ∀ e, t.loop.fatal = some e →
    t.loop.final.isSome = true ∧ t.loop.crashed = false ∧ t.offered = [e]

theorem Faulted.running (h : Faulted t) (running : t.loop.isRunning = true) :
    t.loop.fatal = none := by
  cases hfatal : t.loop.fatal with
  | none => rfl
  | some e =>
    have hfinal := (h e hfatal).1
    rw [(isRunning_iff.mp running).1] at hfinal
    exact absurd hfinal (by simp)

/-- The error that a loop stops on after a call of its sink is the one that the call offers. -/
theorem fatal_follow {l : Loop} {result : Except SinkError Unit} {s : Sink} {w : World}
    {e : SinkError} (going : l.isRunning = true) (none : l.fatal = none)
    (h : (l.follow (result, s, w)).1.fatal = some e) :
    (l.follow (result, s, w)).1.final.isSome = true ∧
      (l.follow (result, s, w)).1.crashed = false ∧ offers result = [e] := by
  cases result with
  | ok _ => exact absurd (none.symm.trans h) (by simp)
  | error e' =>
    rw [Loop.follow, Loop.fail] at h ⊢
    split at h
    · exact absurd (none.symm.trans h) (by simp)
    next hcalm =>
    rw [offers, if_neg hcalm, if_neg hcalm]
    split at h
    · next hheard =>
      rw [if_pos hheard]
      exact ⟨rfl, (isRunning_iff.mp going).2, by rw [Option.some.inj h]⟩
    · exact absurd (none.symm.trans h) (by simp)

theorem Faulted.step (h : Faulted t) (orderly : Orderly t) (step : Step t t') : Faulted t' := by
  intro e hfatal
  cases step.becomes with
  | calls running l plan s w taken going fatal =>
    rw [h.running running] at fatal
    obtain ⟨hfinal, hcrashed, hoffers⟩ := fatal_follow going fatal hfatal
    refine ⟨hfinal, hcrashed, ?_⟩
    rw [call, orderly.silent running, List.nil_append]
    exact hoffers
  | ends running fatal => exact absurd (fatal.symm.trans hfatal) (by simp [h.running running])
  | rests fatal final crashed offered =>
    rw [final, crashed, offered]
    exact h e (fatal.symm.trans hfatal)

end Ledger

namespace Books

/-! ### What the books keep -/

/-- What a service comes to as it stands. -/
inductive Answers (b : Books) : Except ServiceError Report → Prop
  | crashed : b.loop.crashed = true → Answers b (.error .sinkCrashed)
  | ended {final : Report} : b.loop.crashed = false → b.loop.final = some final →
      b.reader.result.isSome = true → Answers b (b.service.outcomeOf final)

/-- What holds of the books of a service, whatever has happened. -/
structure Balanced (b : Books) : Prop where
  orderly : b.toLedger.Orderly
  faulted : b.toLedger.Faulted
  heard : b.loop.errorHeard = true
  counted : b.reader.forwarded = b.sent.length
  sending : b.reader.result = none → b.loop.records.finished = false
  answered : ∀ answer, b.outcome = some answer → b.Answers answer

variable {b b' : Books} {answer : Except ServiceError Report}

theorem Answers.of_same (h : b.Answers answer) (final : b'.loop.final = b.loop.final)
    (crashed : b'.loop.crashed = b.loop.crashed) (fatal : b'.loop.fatal = b.loop.fatal)
    (shutdown : b'.shutdown = b.shutdown)
    (result : b.reader.result.isSome = true → b'.reader.result = b.reader.result) :
    b'.Answers answer := by
  cases h with
  | crashed h => exact .crashed (crashed.trans h)
  | @ended report hcrashed hfinal hresult =>
    have houtcome : b'.service.outcomeOf report = b.service.outcomeOf report := by
      simp only [Service.outcomeOf, service, fatal, shutdown, result hresult]
    rw [← houtcome]
    refine .ended (crashed.trans hcrashed) (final.trans hfinal) ?_
    rw [result hresult]
    exact hresult

theorem Answers.stopped (h : b.Answers answer) : b.loop.isRunning = false := by
  rw [Bool.eq_false_iff, Ne, Ledger.isRunning_iff]
  rintro ⟨final, crashed⟩
  cases h with
  | crashed h => exact absurd (crashed.symm.trans h) (by simp)
  | ended _ h _ => exact absurd (final.symm.trans h) (by simp)

/-- What comes to the reader from outside changes neither what it has forwarded nor how it has
finished. -/
theorem Balanced.aside (h : Balanced b) (reader : Reader) (nextReport : Option Nat)
    (forwarded : reader.forwarded = b.reader.forwarded)
    (result : reader.result = b.reader.result) :
    Balanced { b with reader, nextReport } where
  orderly := h.orderly
  faulted := h.faulted
  heard := h.heard
  counted := forwarded.trans h.counted
  sending := fun running => h.sending (result.symm.trans running)
  answered := fun answer houtcome =>
    (h.answered answer houtcome).of_same rfl rfl rfl rfl fun _ => result

theorem Balanced.shutDown (h : Balanced b) (going : b.outcome = none) :
    Balanced { b with loop := { b.loop with cancelled := true }, shutdown := true } where
  orderly := h.orderly.step (.cancel _)
  faulted := h.faulted.step h.orderly (.cancel _)
  heard := h.heard
  counted := h.counted
  sending := h.sending
  answered := fun answer houtcome => absurd (going.symm.trans houtcome) (by simp)

theorem Balanced.dropReader (h : Balanced b) (finished : b.reader.result.isSome = true) :
    Balanced { b with loop := { b.loop with records := b.loop.records.finish } } where
  orderly := h.orderly.step (.finish _)
  faulted := h.faulted.step h.orderly (.finish _)
  heard := h.heard
  counted := h.counted
  sending := fun running => absurd (running ▸ finished) (by simp)
  answered := fun answer houtcome =>
    (h.answered answer houtcome).of_same rfl rfl rfl rfl fun _ => rfl

theorem Balanced.stopReader (h : Balanced b) : Balanced { b with reader := b.reader.cancel } where
  orderly := h.orderly
  faulted := h.faulted
  heard := h.heard
  counted := h.counted
  sending := fun running => absurd running (by simp [Reader.cancel])
  answered := fun answer houtcome => by
    refine (h.answered answer houtcome).of_same rfl rfl rfl rfl fun hresult => ?_
    obtain ⟨result, hresult⟩ := Option.isSome_iff_exists.mp hresult
    simp [Reader.cancel, hresult]

theorem Balanced.goOn {t : Ledger} (h : Balanced b) (step : Ledger.Step b.toLedger t)
    (untold : Ledger.Untold b.toLedger t) : Balanced { b with toLedger := t } where
  orderly := h.orderly.step step
  faulted := h.faulted.step h.orderly step
  heard := untold.told.heard.trans h.heard
  counted := by rw [h.counted, ← untold.sent]
  sending := fun running => untold.told.finished.trans (h.sending running)
  answered := fun answer houtcome => by
    have hanswer := h.answered answer houtcome
    have stopped : ¬ b.toLedger.loop.isRunning = true := by simp [hanswer.stopped]
    cases step.becomes with
    | calls running _ _ _ _ _ _ _ => exact absurd running stopped
    | ends running _ => exact absurd running stopped
    | rests fatal final crashed _ => exact hanswer.of_same final crashed fatal rfl fun _ => rfl

theorem Balanced.readerEnds (h : Balanced b) (running : b.reader.result = none)
    (result : Except IoError Nat) :
    Balanced { b with
      loop := { b.loop with records := b.loop.records.finish }
      reader := { b.reader with result := some result } } where
  orderly := h.orderly.step (.finish _)
  faulted := h.faulted.step h.orderly (.finish _)
  heard := h.heard
  counted := h.counted
  sending := fun hresult => absurd hresult (by simp)
  answered := fun answer houtcome =>
    (h.answered answer houtcome).of_same rfl rfl rfl rfl fun finished =>
      absurd (running ▸ finished) (by simp)

theorem offer_sent {c c' : Channel} {record : Bytes} (h : c.offer record = .sent c') :
    c'.queue = c.queue ++ [record] ∧ c'.finished = c.finished := by
  rw [Channel.offer] at h
  split at h
  · exact absurd h (by simp)
  · split at h
    · rw [← Offer.sent.inj h]
      exact ⟨rfl, rfl⟩
    · exact absurd h (by simp)

theorem Balanced.sends {record : Bytes} {rest : List (Except IoError Bytes)} {records : Channel}
    (h : Balanced b) (running : b.reader.result = none)
    (room : b.loop.records.offer record = .sent records) :
    Balanced { b with
      loop := { b.loop with records }
      reader := { b.reader with ready := rest, forwarded := b.reader.forwarded + 1 }
      sent := b.sent ++ [record] } where
  orderly := h.orderly.step (.send _ record records (h.sending running) room)
  faulted := h.faulted.step h.orderly (.send _ record records (h.sending running) room)
  heard := h.heard
  counted := by simp [h.counted]
  sending := fun _ => (offer_sent room).2.trans (h.sending running)
  answered := fun answer houtcome =>
    (h.answered answer houtcome).of_same rfl rfl rfl rfl fun _ => rfl

theorem Balanced.forward (h : Balanced b) : Balanced b.forward := by
  have idle : b.sent ++ b.loop.records.queue.drop b.loop.records.queue.length = b.sent := by simp
  rw [Books.forward, Reader.step]
  split
  · dsimp only
    rw [idle]
    exact h
  next hresult =>
  have running : b.reader.result = none := by simpa using hresult
  split
  · split
    · dsimp only [Channel.finish]
      rw [idle]
      exact h.readerEnds running _
    · dsimp only
      rw [idle]
      exact h
  · dsimp only [Channel.finish]
    rw [idle]
    exact h.readerEnds running _
  · split
    · next records hroom =>
      dsimp only
      rw [(offer_sent hroom).1, List.drop_left]
      exact h.sends running hroom
    · dsimp only
      rw [idle]
      exact h
    · dsimp only [Channel.finish]
      rw [idle]
      exact h.readerEnds running _

theorem conclude_cases (b : Books) :
    b.conclude = b ∨ b.outcome = none ∧ ∃ w answer,
      b.conclude = { b with world := w, reader := b.reader.cancel, outcome := some answer } ∧
        b.conclude.Answers answer := by
  rw [Books.conclude, Service.conclude]
  split
  · next houtcome hcrashed => exact .inr ⟨houtcome, b.world, _, rfl, .crashed hcrashed⟩
  · next final houtcome hcrashed hfinal =>
    exact .inr ⟨houtcome, _, _, rfl, .ended hcrashed hfinal (by simp [Reader.cancel])⟩
  · exact .inl rfl

theorem Balanced.conclude (h : Balanced b) : Balanced b.conclude := by
  rcases b.conclude_cases with same | ⟨-, w, answer, hconclude, hanswers⟩
  · rw [same]
    exact h
  rw [hconclude] at hanswers ⊢
  exact
    { orderly := h.orderly.step (.others _ _ _ _ w)
      faulted := h.faulted.step h.orderly (.others _ _ _ _ w)
      heard := h.heard
      counted := h.counted
      sending := fun running => absurd running (by simp [Reader.cancel])
      answered := fun answer' houtcome => Option.some.inj houtcome ▸ hanswers }

theorem Balanced.step (h : Balanced b) (step : Step b b') : Balanced b' := by
  cases step with
  | feed bytes => exact h.aside (b.reader.feed bytes) b.nextReport rfl rfl
  | endInput => exact h.aside b.reader.finish b.nextReport rfl rfl
  | failInput cause => exact h.aside (b.reader.fail cause) b.nextReport rfl rfl
  | shutDown going => exact h.shutDown going
  | forward => exact h.forward
  | stopReader told => exact h.stopReader
  | dropReader finished => exact h.dropReader finished
  | goOn t step untold => exact h.goOn step untold
  | plan nextReport => exact h.aside b.reader nextReport rfl rfl
  | conclude => exact h.conclude

theorem Balanced.run (h : Balanced b) (run : Run b b') : Balanced b' := by
  induction run with
  | refl => exact h
  | tail _ step ih => exact ih.step step

theorem balanced_opened {c : Config} {s : Service} {w₀ w : World}
    (start : Service.start c w₀ = (.ok s, w)) : Balanced (opened s w) := by
  obtain ⟨sink, w₁, starts⟩ := Service.starts_of_start start
  have hledger : (opened s w).toLedger = .start sink c.bundle.queueSize w₁ := by
    rw [Ledger.start, ← starts.loop]
    rfl
  have hstart : s.loop.errorHeard = true ∧ s.loop.fatal = none ∧
      s.loop.records.finished = false := by
    rw [starts.loop_eq, Loop.start]
    split <;> exact ⟨rfl, rfl, rfl⟩
  exact
    { orderly := hledger ▸ Ledger.orderly_start sink c.bundle.queueSize w₁
      faulted := fun e hfatal => absurd (hstart.2.1.symm.trans hfatal) (by simp)
      heard := hstart.1
      counted := by
        change s.reader.forwarded = 0
        rw [starts.reader]
        rfl
      sending := fun _ => hstart.2.2
      answered := fun answer hanswer => absurd (starts.outcome.symm.trans hanswer) (by simp) }

/-! ### What a service comes to -/

theorem Balanced.calm_of_going (h : Balanced b) (going : b.loop.final = none) :
    b.loop.fatal = none := by
  cases hfatal : b.loop.fatal with
  | none => rfl
  | some e => exact absurd (going ▸ (h.faulted e hfatal).1) (by simp)

/-- A loop that has ended without an error has written all that was forwarded. -/
theorem Balanced.written_of_calm (h : Balanced b) (final : b.loop.final.isSome = true)
    (calm : b.loop.fatal = none) : written b.done = b.sent := by
  refine ((h.orderly.ended final).calm ?_).2.1
  by_contra offered
  obtain ⟨-, -, e, -, -, -, -, fatal | deaf⟩ := (h.orderly.ended final).failed offered
  · exact absurd (calm.symm.trans fatal) (by simp)
  · exact absurd (h.heard.symm.trans deaf) (by simp)

/-- A loop that has stopped on an error has written the first records that were forwarded. -/
theorem Balanced.written_of_fatal {e : SinkError} (h : Balanced b) (fatal : b.loop.fatal = some e) :
    written b.done <+: b.sent := by
  obtain ⟨final, -, offered⟩ := h.faulted e fatal
  obtain ⟨-, -, -, -, -, -, hwritten, -⟩ :=
    (h.orderly.ended final).failed (by simp [offered])
  exact hwritten

/-- A service comes to an error of its sink if there is one and no shutdown was requested. -/
theorem outcomeOf_stopped_iff (s : Service) (final : Report) (e : SinkError) :
    s.outcomeOf final = .error (.stopped e) ↔ s.loop.fatal = some e ∧ s.shutdown = false := by
  rw [Service.outcomeOf]
  split
  · next cause hfatal hshutdown => simp [hfatal, hshutdown]
  · next hpassed =>
    refine iff_of_false ?_ fun fault => hpassed e fault.1 fault.2
    split <;> simp

/-- An error of the sink that a service comes to is the one that its loop has stopped on, and it
comes to it unless a shutdown was requested before. A service that comes to a good end has written
all records that were forwarded, unless there was such an error and it was passed over. -/
theorem answered {c : Config} {s : Service} {w w' : World}
    (start : Service.start c w = (.ok s, w')) (run : Run (opened s w') b)
    (came : b.outcome = some answer) :
    (∀ e, answer = .error (.stopped e) ↔ b.loop.fatal = some e ∧ b.shutdown = false) ∧
      ∀ report, answer = .ok report → b.sent.length = b.reader.forwarded ∧
        (b.loop.fatal = none ∧ written b.done = b.sent ∨
          b.shutdown = true ∧ ∃ e, b.loop.fatal = some e ∧ written b.done <+: b.sent) := by
  have h := (balanced_opened start).run run
  cases h.answered answer came with
  | crashed crashed =>
    refine ⟨fun e => iff_of_false (by simp) fun fault => ?_, fun report heq => absurd heq (by simp)⟩
    exact absurd (crashed.symm.trans (h.faulted e fault.1).2.1) (by simp)
  | @ended final crashed hfinal finished =>
    refine ⟨outcomeOf_stopped_iff b.service final, fun report heq => ⟨h.counted.symm, ?_⟩⟩
    cases hfatal : b.loop.fatal with
    | none => exact .inl ⟨rfl, h.written_of_calm (by simp [hfinal]) hfatal⟩
    | some e =>
      refine .inr ⟨?_, e, rfl, h.written_of_fatal hfatal⟩
      by_contra unasked
      have hstopped := (outcomeOf_stopped_iff b.service final e).mpr
        ⟨hfatal, Bool.eq_false_iff.mpr unasked⟩
      exact absurd (heq.symm.trans hstopped) (by simp)

/-! ### An error that is passed over -/

theorem step_world (b : Books) (w : World) : Step b { b with world := w } :=
  .goOn b _ (.others b.toLedger b.loop.sink.uploads b.loop.sink.outcomes b.loop.sink.destination w)
    ⟨rfl, .refl b.loop⟩

/-- A line is forwarded, and the disk is full from then on. -/
def forwardedOne (s : Service) (w : World) : Books :=
  { { opened s w with reader := s.reader.feed [97, 10] }.forward with
    world := { w with disk := { w.disk with faults := [some .noSpace] } } }

theorem run_forwardedOne (s : Service) (w : World) : Run (opened s w) (forwardedOne s w) := by
  have read := Step.feed (opened s w) [97, 10]
  have forwarded := (Relation.ReflTransGen.single read).tail (Step.forward _)
  exact forwarded.tail (step_world _ _)

def shutDown (b : Books) : Books :=
  { b with
    loop := { b.loop with cancelled := true, records := b.loop.records.close }
    world := b.world.tell (.cancelled b.loop.sink.display)
    draining := true
    shutdown := true }

theorem run_shutDown (going : b.outcome = none) (running : b.loop.isRunning = true)
    (open' : b.draining = false) : Run b b.shutDown := by
  have asked := Step.shutDown b going
  have drains : Ledger.Step _ _ :=
    .drain { b.toLedger with loop.cancelled := true } running open' rfl
  exact (Relation.ReflTransGen.single asked).tail (.goOn _ _ drains ⟨rfl, rfl, rfl, rfl⟩)

def takeIn (b : Books) (record : Bytes) : Books :=
  { b with toLedger := b.call (b.loop.sink.outputPlan record) b.loop.sink b.world [record]
            (b.loop.receive b.world) }.conclude

theorem run_takeIn {record : Bytes} {records : Channel} (running : b.loop.isRunning = true)
    (first : b.loop.records.take? = some (record, records)) : Run b (b.takeIn record) := by
  have takes : Ledger.Step b.toLedger _ := .receive _ record records running first
  have taken := Step.goOn b _ takes ⟨rfl, b.loop.told_receive b.world⟩
  exact (Relation.ReflTransGen.single taken).tail (.conclude _)

/-- Whether a service starts, and one that passes a check. -/
def startPasses (result : Except ServiceError Service × World) (check : Service → World → Bool) :
    Bool :=
  match result with
  | (.ok s, w) => check s w
  | (.error _, _) => false

theorem exists_of_startPasses {result : Except ServiceError Service × World}
    {check : Service → World → Bool} (h : startPasses result check = true) :
    ∃ s w, result = (.ok s, w) ∧ check s w = true := by
  obtain ⟨e | s, w⟩ := result
  · exact absurd h (by simp [startPasses])
  · exact ⟨s, w, rfl, h⟩

/-- Whether the books are those of a service that has come to a good end although its loop has
stopped on an error. -/
def hidesError (b : Books) : Bool :=
  b.loop.fatal.isSome &&
    match b.outcome with
    | some (.ok _) => true
    | _ => false

/-- With a configuration that is accepted, a service can come to a good end although its loop has
stopped on an error and none of the records that were forwarded has been written. -/
theorem error_passed_over :
    ∃ c s w b, Config.ofText "[bundle]\nconnection = \"b:d\"\n".toList = .ok c ∧
      Service.start c (.fresh ['w']) = (.ok s, w) ∧ Run (opened s w) b ∧
      b.hidesError = true ∧ b.reader.forwarded = 1 ∧ b.sent = [[97, 10]] ∧ written b.done = [] := by
  have hcheck : Service.accepts "[bundle]\nconnection = \"b:d\"\n".toList (fun c =>
      startPasses (Service.start c (.fresh ['w'])) fun s w =>
        let b := forwardedOne s w
        let b' := b.shutDown.takeIn [97, 10]
        b.outcome.isNone && b.loop.isRunning && !b.draining && b.shutDown.loop.isRunning &&
          decide (b.shutDown.loop.records.take?.map Prod.fst = some [97, 10]) &&
          b'.hidesError && decide (b'.reader.forwarded = 1) && decide (b'.sent = [[97, 10]]) &&
          decide (written b'.done = [])) = true := by decide +kernel
  obtain ⟨c, accepted, hcheck⟩ := Service.exists_of_accepts hcheck
  obtain ⟨s, w, start, hcheck⟩ := exists_of_startPasses hcheck
  simp only [Bool.and_eq_true, decide_eq_true_eq, Option.isNone_iff_eq_none, Bool.not_eq_true',
    Option.map_eq_some_iff, Prod.exists, exists_and_right, exists_eq_right] at hcheck
  obtain ⟨⟨⟨⟨hcheck, hidden⟩, one⟩, sent⟩, lost⟩ := hcheck
  obtain ⟨⟨⟨⟨going, running⟩, open'⟩, running'⟩, records, first⟩ := hcheck
  have stopping := (run_forwardedOne s w).trans (run_shutDown going running open')
  exact ⟨c, s, w, _, accepted, start, stopping.trans (run_takeIn running' first), hidden, one,
    sent, lost⟩

end Books

end Outbox
