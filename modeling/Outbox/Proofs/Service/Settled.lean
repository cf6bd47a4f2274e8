import Outbox.Proofs.Service.Outcome

/-!
# Services that settle

When everything that is ready happens before the next thing comes, nothing is queued at the moment
at which a shutdown is requested, so there is nothing left on which the loop could still fail. Such
a service passes no error over: it comes to every error that its loop stops on, and if it comes to a
good end it has written all records that were forwarded (`Service.answered_of_uses`). While it goes
on, nothing is ready between two uses: its reader has nothing to do and nothing is queued
(`Service.idle_of_uses`).
-/

set_option autoImplicit false

namespace Outbox

/-! ### Loops that settle -/

namespace Loop

/-- A loop that goes on has left its channel as it was. -/
def LeavesChannel (l l' : Loop) : Prop :=
  l'.isRunning = true → l.isRunning = true ∧ l'.records = l.records

variable {l l' l'' : Loop} {w : World}

theorem LeavesChannel.refl (l : Loop) : LeavesChannel l l :=
  fun going => ⟨going, rfl⟩

theorem LeavesChannel.trans (h : LeavesChannel l l') (h' : LeavesChannel l' l'') :
    LeavesChannel l l'' := fun going =>
  have between := h' going
  ⟨(h between.1).1, between.2.trans (h between.1).2⟩

theorem LeavesChannel.of_stopped (stopped : l'.isRunning = false) : LeavesChannel l l' :=
  fun going => absurd (stopped.symm.trans going) (by simp)

theorem leavesChannel_follow {α : Type} (l : Loop) (result : Except SinkError α × Sink × World) :
    LeavesChannel l (l.follow result).1 := by
  obtain ⟨e | _, s, w⟩ := result
  · exact .of_stopped (Ledger.fail_stopped _ e w)
  · exact .refl l

theorem leavesChannel_takeOutcome (l : Loop) (w : World) :
    LeavesChannel l (l.takeOutcome w).1 := by
  rw [takeOutcome]
  split
  · exact .refl l
  dsimp only
  split
  · exact .of_stopped (by simp [isRunning, crash])
  · exact .refl l

theorem leavesChannel_takeOutcomes (l : Loop) (w : World) :
    LeavesChannel l (l.takeOutcomes w).1 := by
  rw [takeOutcomes]
  generalize List.range l.sink.outcomes.length = turns
  induction turns generalizing l w with
  | nil => exact .refl l
  | cons turn rest ih =>
    rw [List.foldl_cons]
    split
    · exact (leavesChannel_takeOutcome l w).trans (ih _ _)
    · exact ih l w

theorem drain_stopped (l : Loop) (w : World) : (l.drain w).1.isRunning = false := by
  rw [drain]
  split
  · exact Ledger.fail_stopped _ _ _
  · rfl

/-- With nothing in its channel, a loop that settles and goes on leaves it so. -/
theorem leavesChannel_settleInputs (empty : l.isRunning = true → l.records.queue = [])
    (w : World) : LeavesChannel l (l.settleInputs w).1 := by
  rw [settleInputs]
  split
  · exact .refl l
  next running =>
  split
  · exact .of_stopped (drain_stopped l w)
  rw [empty (by simpa using running)]
  dsimp only [List.length_nil, receiveAll]
  split
  · exact .refl l
  split
  · exact .of_stopped rfl
  split
  · exact leavesChannel_follow _ _
  · exact .refl l

theorem leavesChannel_settle (empty : l.isRunning = true → l.records.queue = []) (w : World) :
    LeavesChannel l (l.settle w).1 := by
  have inputs := leavesChannel_settleInputs empty w
  rw [settle]
  generalize l.settleInputs w = state at inputs
  obtain ⟨l', w'⟩ := state
  have advanced : LeavesChannel l { l' with sink := (l'.sink.advanceUploads w').1 } := inputs
  dsimp only
  split
  · exact advanced.trans (leavesChannel_takeOutcomes _ _)
  · exact advanced

theorem LeavesChannel.empty (h : LeavesChannel l l')
    (empty : l.isRunning = true → l.records.queue = []) (going : l'.isRunning = true) :
    l'.records.queue = [] :=
  (h going).2 ▸ empty (h going).1

theorem leavesChannel_tick (l : Loop) (w : World) : LeavesChannel l (l.tick w).1 :=
  leavesChannel_follow { l with nextTick := l.nextTick + l.sink.settings.tickInterval } _

theorem leavesChannel_pass (empty : l.isRunning = true → l.records.queue = []) (nanos : Nat)
    (w : World) : LeavesChannel l (l.pass nanos w).1 := by
  rw [pass]
  generalize w.now + nanos = target
  generalize (target - l.nextTick) / l.sink.settings.tickInterval + 1 = ticks
  induction ticks generalizing l w with
  | zero => exact .refl l
  | succ ticks ih =>
    rw [passTo]
    split
    · have ticked := leavesChannel_tick l { w with now := max w.now (firingTime l.nextTick) }
      generalize l.tick { w with now := max w.now (firingTime l.nextTick) } = state at ticked
      obtain ⟨l', w'⟩ := state
      have settled := ticked.trans (leavesChannel_settle (ticked.empty empty) w')
      exact settled.trans (ih (settled.empty empty) _)
    · exact .refl l

/-! ### Records that are taken in -/

theorem receive_running (running : l.isRunning = true) (w : World) :
    (l.receive w).1.isRunning = true ∨ (l.receive w).1.records.queue = [] := by
  rw [receive]
  split
  · exact .inl running
  · next record records _ =>
    rcases l.sink.output record w with ⟨e | _, s, w'⟩
    · refine .inr ?_
      rw [follow, (Ledger.fail_cases _ e w').1]
      rfl
    · exact .inl running

theorem receiveAll_empty {n : Nat} (enough : l.records.queue.length ≤ n)
    (running : l.isRunning = true ∨ l.records.queue = []) (w : World) :
    (receiveAll n l w).1.records.queue = [] := by
  induction n generalizing l w with
  | zero => exact List.eq_nil_of_length_eq_zero (Nat.le_zero.mp enough)
  | succ n ih =>
    rw [receiveAll]
    split
    · next going =>
      have less : (l.receive w).1.records.queue.length ≤ n := by
        have down := Ledger.receive_queue l w
        omega
      exact ih less (receive_running going w) _
    · next stopped => exact running.resolve_left stopped

/-! ### Loops that stop -/

theorem pass_stopped (nanos : Nat) (stopped : l.isRunning = false) (w : World) :
    (l.pass nanos w).1 = l := by
  rw [pass, passTo, if_neg (by simp [stopped])]

/-- A loop that is told to stop when nothing is queued stops without an error. -/
theorem settle_cancelled (cancelled : l.cancelled = true) (empty : l.records.queue = [])
    (w : World) : (l.settle w).1.fatal = l.fatal ∧ (l.settle w).1.isRunning = false := by
  have inputs : (l.settleInputs w).1.fatal = l.fatal ∧
      (l.settleInputs w).1.isRunning = false := by
    rw [settleInputs, cancelled]
    split
    · next stopped => exact ⟨rfl, by simpa using stopped⟩
    · rw [if_pos rfl, drain, empty]
      exact ⟨rfl, rfl⟩
  rw [settle]
  generalize l.settleInputs w = state at inputs ⊢
  obtain ⟨l', w'⟩ := state
  dsimp only at inputs ⊢
  have stopped : ¬ ({ l' with sink := (l'.sink.advanceUploads w').1 } : Loop).isRunning = true := by
    rw [Bool.not_eq_true]
    exact inputs.2
  rw [if_neg stopped]
  exact inputs

end Loop

/-! ### What is done with a service -/

/-- Nothing is ready between a reader and its channel. -/
structure Reader.Idle (r : Reader) (c : Channel) : Prop where
  empty : c.queue = []
  still : r.step c = (r, c)

theorem Reader.Idle.of_leavesChannel {r : Reader} {l l' : Loop} (h : l.LeavesChannel l')
    (idle : l.isRunning = true → r.Idle l.records) (going : l'.isRunning = true) :
    r.Idle l'.records := by
  obtain ⟨running, same⟩ := h going
  rw [same]
  exact idle running

namespace Service

/-- Something is done with a service, or happens around it. What is ready then happens before the
next thing comes. -/
inductive Use : Service × World → Service × World → Prop where
  | feed (s : Service) (w : World) (bytes : Bytes) : Use (s, w) (s.feed bytes w)
  | endInput (s : Service) (w : World) : Use (s, w) (s.endInput w)
  | failInput (s : Service) (w : World) (cause : IoError) : Use (s, w) (s.failInput cause w)
  | requestFlush (s : Service) (w : World) : Use (s, w) (s.requestFlush w)
  | requestShutdown (s : Service) (w : World) : Use (s, w) (s.requestShutdown w)
  | pass (s : Service) (w : World) (nanos : Nat) : Use (s, w) (s.pass nanos w)
  | around (s : Service) (w w' : World) : Use (s, w) (s, w')

abbrev Uses : Service × World → Service × World → Prop :=
  Relation.ReflTransGen Use

theorem Use.leads {before after : Service × World} (use : Use before after) :
    Books.Leads before after := by
  cases use with
  | feed s w bytes => exact Books.leads_feed s bytes w
  | endInput s w => exact Books.leads_endInput s w
  | failInput s w cause => exact Books.leads_failInput s cause w
  | requestFlush s w => exact Books.leads_requestFlush s w
  | requestShutdown s w => exact Books.leads_requestShutdown s w
  | pass s w nanos => exact Books.leads_pass s nanos w
  | around s w w' => exact Books.leads_world s w w'

theorem Uses.leads {before after : Service × World} (uses : Uses before after) :
    Books.Leads before after := by
  induction uses with
  | refl => exact .refl _
  | tail _ use ih => exact ih.trans use.leads

/-- A service between two uses: nothing is ready in one that goes on, and it has not been shut down.
Once it is shut down there is no error of its loop. -/
structure AtRest (s : Service) : Prop where
  going : s.outcome = none → s.shutdown = false ∧ s.loop.final = none ∧ s.reader.Idle s.loop.records
  calm : s.shutdown = true → s.loop.fatal = none

variable {s : Service} {w : World}

theorem pump_same (rounds : Nat) (s : Service) (w : World) :
    (pump rounds s w).1.outcome = s.outcome ∧ (pump rounds s w).1.shutdown = s.shutdown := by
  induction rounds generalizing s w with
  | zero => exact ⟨rfl, rfl⟩
  | succ rounds ih =>
    rw [pump]
    dsimp only
    split
    · exact ih _ _
    · exact ⟨rfl, rfl⟩

theorem pump_still (finished : s.reader.result.isSome = true) (empty : s.loop.records.queue = [])
    (rounds : Nat) (w : World) : pump rounds s w = (s, w) := by
  cases rounds with
  | zero => rfl
  | succ rounds =>
    rw [pump, Reader.run, Reader.steps_of_idle (Reader.step_of_finished finished _)]
    dsimp only
    rw [if_neg (by simp [empty])]

/-- As many rounds as there are records that are ready, and one more, leave nothing ready. -/
theorem pump_idle {rounds : Nat} (empty : s.loop.records.queue = [])
    (enough : s.reader.ready.length < rounds) (w : World)
    (going : (pump rounds s w).1.loop.isRunning = true) :
    (pump rounds s w).1.reader.Idle (pump rounds s w).1.loop.records := by
  induction rounds generalizing s w with
  | zero => exact absurd enough (Nat.not_lt_zero _)
  | succ rounds ih =>
    have idle := s.reader.run_idle s.loop.records
    have length := s.reader.run_length s.loop.records
    rw [pump] at going ⊢
    generalize s.reader.run s.loop.records = after at idle length going ⊢
    obtain ⟨reader, records⟩ := after
    dsimp only at idle length going ⊢
    rw [empty, List.length_nil] at length
    split
    · next busy =>
      rw [if_pos busy] at going
      rw [Bool.and_eq_true, decide_eq_true_eq] at busy
      obtain ⟨running, queued⟩ := busy
      have hpos := List.length_pos_iff.mpr queued
      refine ih ?_ ?_ _ going
      · exact Loop.receiveAll_empty (Nat.le_refl _) (.inl running) w
      · dsimp only
        omega
    · next still =>
      rw [if_neg still] at going
      refine ⟨?_, idle⟩
      by_contra queued
      exact still (Bool.and_eq_true_iff.mpr ⟨going, decide_eq_true queued⟩)

/-- A service that has concluded and goes on is as it was, and so is its loop. -/
theorem conclude_going (s : Service) (w : World) :
    (s.conclude w).1.loop = s.loop ∧ (s.conclude w).1.shutdown = s.shutdown ∧
      ((s.conclude w).1.outcome = none →
        s.loop.isRunning = true ∧ (s.conclude w).1.reader = s.reader) := by
  rw [conclude]
  split
  · exact ⟨rfl, rfl, fun going => absurd going (by simp)⟩
  · exact ⟨rfl, rfl, fun going => absurd going (by simp)⟩
  · next uncrashed unended =>
    refine ⟨rfl, rfl, fun going => ⟨?_, rfl⟩⟩
    have crashed : s.loop.crashed = false := Bool.eq_false_iff.mpr (uncrashed going)
    have final : s.loop.final = none :=
      Option.eq_none_iff_forall_ne_some.mpr fun report => unended report going crashed
    exact Ledger.isRunning_iff.mpr ⟨final, crashed⟩

theorem AtRest.of_conclude (unasked : s.shutdown = false)
    (idle : s.loop.isRunning = true → s.reader.Idle s.loop.records) (w : World) :
    (s.conclude w).1.AtRest := by
  obtain ⟨loop, shutdown, going⟩ := conclude_going s w
  constructor
  · intro none
    obtain ⟨running, reader⟩ := going none
    rw [shutdown, loop, reader]
    exact ⟨unasked, (Ledger.isRunning_iff.mp running).1, idle running⟩
  · intro asked
    rw [shutdown, unasked] at asked
    exact absurd asked (by simp)

theorem AtRest.of_stopped (stopped : s.loop.isRunning = false)
    (calm : s.shutdown = true → s.loop.fatal = none) (w : World) : (s.conclude w).1.AtRest := by
  obtain ⟨loop, shutdown, going⟩ := conclude_going s w
  refine ⟨fun none => absurd (going none).1 (by simp [stopped]), fun asked => ?_⟩
  rw [loop]
  exact calm (shutdown.symm.trans asked)

theorem atRest_settle (unasked : s.shutdown = false) (empty : s.loop.records.queue = [])
    (w : World) : (s.settle w).1.AtRest := by
  have same := pump_same (s.reader.ready.length + 1) s w
  have idle := pump_idle empty (Nat.lt_succ_self s.reader.ready.length) w
  rw [settle]
  generalize pump (s.reader.ready.length + 1) s w = state at same idle
  obtain ⟨s', w'⟩ := state
  have leaves := Loop.leavesChannel_settle (fun going => (idle going).empty) w'
  refine .of_conclude ?_ ?_ _
  · exact same.2.trans unasked
  · exact Reader.Idle.of_leavesChannel leaves idle

theorem atRest_passTo (target reports : Nat) (unasked : s.shutdown = false)
    (idle : s.loop.isRunning = true → s.reader.Idle s.loop.records) (w : World) :
    (passTo target reports s w).1.AtRest := by
  have pass {s : Service} (idle : s.loop.isRunning = true → s.reader.Idle s.loop.records)
      (nanos : Nat) (w : World) :=
    Reader.Idle.of_leavesChannel
      (Loop.leavesChannel_pass (fun going => (idle going).empty) nanos w) idle
  have atOnce {s : Service} (w : World) (unasked : s.shutdown = false)
      (idle : s.loop.isRunning = true → s.reader.Idle s.loop.records) :
      (passTo target 0 s w).1.AtRest := by
    rw [passTo]
    refine .of_conclude ?_ ?_ _
    · exact unasked
    · exact pass idle _ w
  induction reports generalizing s w with
  | zero => exact atOnce w unasked idle
  | succ reports ih =>
    rw [passTo]
    split
    · split
      · refine ih ?_ ?_ _
        · exact unasked
        · exact pass idle _ w
      · exact atOnce w unasked idle
    · exact atOnce w unasked idle

theorem AtRest.passTo_stopped (rest : s.AtRest) (stopped : s.loop.isRunning = false)
    (target reports : Nat) (w : World) : (passTo target reports s w).1.AtRest := by
  have atOnce : (passTo target 0 s w).1.AtRest := by
    rw [passTo]
    have same := Loop.pass_stopped (target - w.now) stopped w
    generalize s.loop.pass (target - w.now) w = state at same ⊢
    obtain ⟨l, w'⟩ := state
    dsimp only at same ⊢
    rw [same]
    exact .of_stopped stopped rest.calm _
  cases reports with
  | zero => exact atOnce
  | succ reports =>
    rw [passTo, stopped]
    split <;> exact atOnce

theorem AtRest.shutDown (rest : s.AtRest) (going : s.outcome = none) (calm : s.loop.fatal = none)
    (w : World) : (s.requestShutdown w).1.AtRest := by
  obtain ⟨-, -, idle⟩ := rest.going going
  have told : ({ s.loop with cancelled := true } : Loop).cancelled = true := rfl
  obtain ⟨fatal, stopped⟩ := Loop.settle_cancelled told idle.empty (w.tell .shutdownRequested)
  rw [requestShutdown, if_neg (by simp [hasEnded, going]), settle, pump_still]
  · refine .of_stopped ?_ ?_ _
    · exact stopped
    · exact fun _ => fatal.trans calm
  · simp [Reader.cancel]
  · exact idle.empty

theorem outcome_of_going (going : ¬ s.hasEnded = true) : s.outcome = none := by
  simpa [hasEnded] using going

/-- A service that goes on settles after it was told something other than to shut down. -/
theorem AtRest.settle {told : Service} (rest : s.AtRest) (going : ¬ s.hasEnded = true)
    (shutdown : told.shutdown = s.shutdown) (records : told.loop.records = s.loop.records)
    (w : World) : (told.settle w).1.AtRest := by
  obtain ⟨unasked, -, idle⟩ := rest.going (outcome_of_going going)
  refine atRest_settle (shutdown.trans unasked) ?_ w
  rw [records]
  exact idle.empty

theorem AtRest.use {before after : Service × World} (rest : before.1.AtRest)
    (calm : before.1.loop.final = none → before.1.loop.fatal = none)
    (ended : before.1.outcome.isSome = true → before.1.loop.isRunning = false)
    (use : Use before after) : after.1.AtRest := by
  cases use with
  | feed s w bytes =>
    rw [feed]
    split
    · exact rest
    · next going => refine rest.settle going ?_ ?_ w <;> rfl
  | endInput s w =>
    rw [endInput]
    split
    · exact rest
    · next going => refine rest.settle going ?_ ?_ w <;> rfl
  | failInput s w cause =>
    rw [failInput]
    split
    · exact rest
    · next going => refine rest.settle going ?_ ?_ w <;> rfl
  | requestFlush s w =>
    rw [requestFlush]
    split
    · exact rest
    · next going =>
      have records : s.loop.requestFlush.2.records = s.loop.records := by
        rw [Loop.requestFlush]
        split <;> rfl
      refine rest.settle going ?_ ?_ _
      · rfl
      · exact records
  | requestShutdown s w =>
    by_cases hended : s.hasEnded = true
    · rw [requestShutdown, if_pos hended]
      exact rest
    · have going := outcome_of_going hended
      exact rest.shutDown going (calm (rest.going going).2.1) w
  | pass s w nanos =>
    rw [pass]
    cases houtcome : s.outcome with
    | none =>
      obtain ⟨unasked, -, idle⟩ := rest.going houtcome
      exact atRest_passTo _ _ unasked (fun _ => idle) w
    | some answer => exact rest.passTo_stopped (ended (by simp [houtcome])) _ _ w
  | around s w w' => exact rest

theorem atRest_of_start {c : Config} {w₀ : World} (start : start c w₀ = (.ok s, w)) :
    s.AtRest := by
  obtain ⟨sink, w₁, starts⟩ := starts_of_start start
  have fresh : s.loop.final = none ∧ s.loop.records.queue = [] := by
    rw [starts.loop_eq, Loop.start]
    split <;> exact ⟨rfl, rfl⟩
  have idle : s.reader.Idle s.loop.records := by
    refine ⟨fresh.2, ?_⟩
    rw [starts.reader]
    rfl
  refine ⟨fun _ => ⟨starts.unasked, fresh.1, idle⟩, fun asked => ?_⟩
  exact absurd (starts.unasked.symm.trans asked) (by simp)

theorem books_of_uses {c : Config} {w₀ : World} {after : Service × World}
    (start : start c w₀ = (.ok s, w)) (uses : Uses (s, w) after) :
    ∃ b, Books.Run (Books.opened s w) b ∧ b.service = after.1 ∧ b.Balanced := by
  obtain ⟨b, run, hservice, -⟩ := uses.leads (Books.opened s w) rfl rfl fun _ => rfl
  exact ⟨b, run, hservice, (Books.balanced_opened start).run run⟩

theorem atRest_of_uses {c : Config} {w₀ : World} {after : Service × World}
    (start : start c w₀ = (.ok s, w)) (uses : Uses (s, w) after) : after.1.AtRest := by
  induction uses with
  | refl => exact atRest_of_start start
  | @tail before after uses use ih =>
    obtain ⟨b, -, hservice, balanced⟩ := books_of_uses start uses
    refine ih.use ?_ ?_ use
    · rw [← hservice]
      exact balanced.calm_of_going
    · rw [← hservice]
      intro ended
      obtain ⟨answer, came⟩ := Option.isSome_iff_exists.mp ended
      exact (balanced.answered answer came).stopped

/-- Between two uses of a service that goes on, its reader has nothing to do and nothing is
queued. -/
theorem idle_of_uses {c : Config} {w₀ : World} {after : Service × World}
    (start : start c w₀ = (.ok s, w)) (uses : Uses (s, w) after) (going : after.1.outcome = none) :
    after.1.reader.Idle after.1.loop.records :=
  ((atRest_of_uses start uses).going going).2.2

/-- A service that is used from its start comes to every error that its loop stops on. If it comes
to a good end, it has written all records that were forwarded. -/
theorem answered_of_uses {c : Config} {w₀ : World} {after : Service × World}
    {answer : Except ServiceError Report} (start : start c w₀ = (.ok s, w))
    (uses : Uses (s, w) after) (came : after.1.outcome = some answer) :
    (∀ e, answer = .error (.stopped e) ↔ after.1.loop.fatal = some e) ∧
      ∀ report, answer = .ok report → ∃ b, Books.Run (Books.opened s w) b ∧
        b.service = after.1 ∧ b.sent.length = after.1.reader.forwarded ∧
        Sink.written b.done = b.sent := by
  obtain ⟨b, run, hservice, balanced⟩ := books_of_uses start uses
  have rest := atRest_of_uses start uses
  rw [← hservice] at came rest ⊢
  obtain ⟨faults, good⟩ := Books.answered start run came
  constructor
  · intro e
    rw [faults e]
    refine ⟨And.left, fun fatal => ⟨fatal, Bool.eq_false_iff.mpr fun asked => ?_⟩⟩
    exact absurd (fatal.symm.trans (rest.calm asked)) (by simp)
  · intro report heq
    obtain ⟨counted, ⟨-, whole⟩ | ⟨asked, e, fatal, -⟩⟩ := good report heq
    · exact ⟨b, run, rfl, counted, whole⟩
    · exact absurd (fatal.symm.trans (rest.calm asked)) (by simp)

end Service

end Outbox
