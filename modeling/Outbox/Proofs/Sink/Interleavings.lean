import Mathlib.Logic.Relation
import Mathlib.Tactic.ByContra
import Outbox.Proofs.Sink.Start
import Outbox.Sink.Loop

/-!
# What a loop does with its records

A loop takes in records, ticks, outcomes and flush requests in whatever order they come, and between
any two of them records are sent, uploads go on and the disk changes. A ledger is a loop together
with what has gone through it: the records that were sent and those that were passed to the sink,
and each operation of the sink with its outcome. Whatever the order, a loop that ends without an
error has passed on all records that were sent, in the order in which they were sent; and an
operation that fails is the last one (`Ledger.conserved`). The order that `Loop.settle` takes is one
of them (`Ledger.leads_settle`, `Ledger.leads_pass`).
-/

set_option autoImplicit false

namespace Outbox

/-! ### Operations of a sink -/

namespace Sink

/-- What a loop lets its sink do to the live file and to the queue of files. -/
inductive Operation where
  | append (record : Bytes)
  | rollOver
  | dispatchNext
  deriving DecidableEq, Repr

namespace Operation

def record? : Operation → Option Bytes
  | .append record => some record
  | _ => none

def perform (operation : Operation) (s : Sink) (w : World) : Except SinkError Unit × Sink × World :=
  match operation with
  | .append record => s.append record w
  | .rollOver => ((s.rollOver w).1.map fun _ => (), (s.rollOver w).2)
  | .dispatchNext => (.ok (), s.dispatchNext, w)

end Operation

abbrev Done := Operation × Except SinkError Unit

/-- Does operations one after the other, up to one that fails. -/
def performAll : List Operation → Sink → World → List Done × Except SinkError Unit × Sink × World
  | [], s, w => ([], .ok (), s, w)
  | operation :: rest, s, w =>
    match operation.perform s w with
    | (.error e, s, w) => ([(operation, .error e)], .error e, s, w)
    | (.ok (), s, w) =>
      match performAll rest s w with
      | (done, result) => ((operation, .ok ()) :: done, result)

def outputPlan (s : Sink) (record : Bytes) : List Operation :=
  if s.overflows record then [.rollOver, .append record] else [.append record]

def tickPlan (s : Sink) (w : World) : List Operation :=
  if s.isOverdue w then [.rollOver, .dispatchNext] else [.dispatchNext]

variable {s : Sink} {w : World}

theorem performAll_single (operation : Operation) (s : Sink) (w : World) :
    (performAll [operation] s w).2 = operation.perform s w := by
  rw [performAll]
  rcases operation.perform s w with ⟨e | _, s', w'⟩ <;> rfl

/-- After a rollover the rest is done only if it succeeded. -/
theorem performAll_rollOver (rest : List Operation) (s : Sink) (w : World) :
    (performAll (.rollOver :: rest) s w).2
      = match s.rollOver w with
        | (.error e, s, w) => (.error e, s, w)
        | (.ok _, s, w) => (performAll rest s w).2 := by
  rw [performAll, Operation.perform]
  rcases s.rollOver w with ⟨e | path, s', w'⟩ <;> rfl

theorem output_eq (s : Sink) (record : Bytes) (w : World) :
    s.output record w = (performAll (s.outputPlan record) s w).2 := by
  rw [output, outputPlan]
  split
  · rw [performAll_rollOver]
    rcases s.rollOver w with ⟨e | path, s', w'⟩
    · rfl
    · exact (performAll_single (.append record) s' w').symm
  · exact (performAll_single (.append record) s w).symm

theorem tick_eq (s : Sink) (w : World) : s.tick w = (performAll (s.tickPlan w) s w).2 := by
  rw [tick, tickPlan]
  split
  · rw [performAll_rollOver]
    rcases s.rollOver w with ⟨e | path, s', w'⟩ <;> rfl
  · rfl

/-- Operations that have been done all succeeded, or the last one failed and no other. -/
theorem performAll_cases (plan : List Operation) (s : Sink) (w : World) :
    ((performAll plan s w).2.1 = .ok () ∧ (performAll plan s w).1 = plan.map (·, .ok ())) ∨
      ∃ before operation after e, plan = before ++ operation :: after ∧
        (performAll plan s w).2.1 = .error e ∧
        (performAll plan s w).1 = before.map (·, .ok ()) ++ [(operation, .error e)] := by
  induction plan generalizing s w with
  | nil => exact .inl ⟨rfl, rfl⟩
  | cons operation rest ih =>
    rw [performAll]
    rcases operation.perform s w with ⟨e | _, s', w'⟩
    · exact .inr ⟨[], operation, rest, e, rfl, rfl, rfl⟩
    · rcases ih s' w' with ⟨hok, hdone⟩ | ⟨before, failed, after, e, rfl, herror, hdone⟩
      · exact .inl ⟨hok, by simp [hdone]⟩
      · exact .inr ⟨operation :: before, failed, after, e, rfl, herror, by simp [hdone]⟩

def written (done : List Done) : List Bytes :=
  done.filterMap fun entry =>
    match entry.2 with
    | .ok () => entry.1.record?
    | .error _ => none

theorem written_append (done done' : List Done) :
    written (done ++ done') = written done ++ written done' :=
  List.filterMap_append

theorem written_ok (plan : List Operation) :
    written (plan.map (·, .ok ())) = plan.filterMap Operation.record? := by
  rw [written, List.filterMap_map]
  rfl

theorem outputPlan_records (s : Sink) (record : Bytes) :
    (s.outputPlan record).filterMap Operation.record? = [record] := by
  rw [outputPlan]
  split <;> rfl

theorem tickPlan_records (s : Sink) (w : World) :
    (s.tickPlan w).filterMap Operation.record? = [] := by
  rw [tickPlan]
  split <;> rfl

end Sink

/-! ### Ledgers -/

open Sink (Operation Done performAll written)

/-- A loop and what has gone through it. -/
structure Ledger where
  loop : Loop
  world : World
  sent : List Bytes
  passed : List Bytes
  done : List Done
  /-- The errors that were offered to whoever hears of them. -/
  offered : List SinkError
  /-- Whether the loop has begun to write out what is queued, as the last thing it does. -/
  draining : Bool

namespace Ledger

/-- The errors that the outcome of a call offers. One that nothing can be done about is offered to
nobody. -/
def offers : Except SinkError Unit → List SinkError
  | .ok () => []
  | .error e => if e.isCrash then [] else [e]

def start (s : Sink) (capacity : Nat) (w : World) : Ledger :=
  { loop := (Loop.start s capacity w).1, world := (Loop.start s capacity w).2, sent := []
    passed := [], done := [], offered := [], draining := false }

/-- The loop has gone on by a call with a plan of operations, which passes on some records. -/
def call (t : Ledger) (plan : List Operation) (s : Sink) (w : World) (taken : List Bytes)
    (after : Loop × World) : Ledger :=
  { t with
    loop := after.1
    world := after.2
    passed := t.passed ++ taken
    done := t.done ++ (performAll plan s w).1
    offered := t.offered ++ offers (performAll plan s w).2.1 }

/-- One step: of those who send, of the uploads and the surroundings, or of the loop. The loop takes
in one thing at a time, in any order; once it has begun to drain it takes in records only. -/
inductive Step : Ledger → Ledger → Prop where
  | send (t : Ledger) (record : Bytes) (records : Channel)
      (more : t.loop.records.finished = false)
      (room : t.loop.records.offer record = .sent records) :
      Step t { t with loop := { t.loop with records }, sent := t.sent ++ [record] }
  | finish (t : Ledger) :
      Step t { t with loop := { t.loop with records := t.loop.records.finish } }
  | cancel (t : Ledger) : Step t { t with loop := { t.loop with cancelled := true } }
  | requestFlush (t : Ledger) : Step t { t with loop := t.loop.requestFlush.2 }
  | unhear (t : Ledger) : Step t { t with loop := { t.loop with errorHeard := false } }
  | others (t : Ledger) (uploads : List Upload) (outcomes : List Outcome)
      (destination : Destination) (world : World) :
      Step t { t with
        loop := { t.loop with sink := { t.loop.sink with uploads, outcomes, destination } }, world }
  | receive (t : Ledger) (record : Bytes) (records : Channel)
      (running : t.loop.isRunning = true)
      (first : t.loop.records.take? = some (record, records)) :
      Step t (t.call (t.loop.sink.outputPlan record) t.loop.sink t.world [record]
        (t.loop.receive t.world))
  | tick (t : Ledger) (running : t.loop.isRunning = true) (open' : t.draining = false) :
      Step t (t.call (t.loop.sink.tickPlan t.world) t.loop.sink t.world [] (t.loop.tick t.world))
  | flush (t : Ledger) (running : t.loop.isRunning = true) (open' : t.draining = false)
      (waiting : t.loop.sink.flushWaiting = true) :
      Step t (t.call [.rollOver] { t.loop.sink with flushWaiting := false }
        (t.world.tell (.flushRequested t.loop.sink.destination.describe)) []
        (t.loop.flush t.world))
  | takeOutcome (t : Ledger) (running : t.loop.isRunning = true) (open' : t.draining = false) :
      Step t { t with
        loop := (t.loop.takeOutcome t.world).1, world := (t.loop.takeOutcome t.world).2 }
  | endOfRecords (t : Ledger) (running : t.loop.isRunning = true) (open' : t.draining = false)
      (none : t.loop.records.queue = []) (last : t.loop.records.finished = true) :
      Step t { t with
        loop := (t.loop.endOfRecords t.world).1, world := (t.loop.endOfRecords t.world).2 }
  | drain (t : Ledger) (running : t.loop.isRunning = true) (open' : t.draining = false)
      (cancelled : t.loop.cancelled = true) :
      Step t { t with
        loop := { t.loop with records := t.loop.records.close }
        world := t.world.tell (.cancelled t.loop.sink.display), draining := true }
  | drained (t : Ledger) (w : World) (running : t.loop.isRunning = true)
      (draining : t.draining = true) (none : t.loop.records.queue = []) :
      Step t { t with loop := (t.loop.stop w).1, world := (t.loop.stop w).2 }

abbrev Run : Ledger → Ledger → Prop :=
  Relation.ReflTransGen Step

/-! ### What a ledger keeps -/

/-- What a loop has come to that ended in order: it passed on what was sent. Or it ended on an
error, after an operation that failed. -/
structure Ended (t : Ledger) : Prop where
  calm : t.offered = [] → t.passed = t.sent ∧ written t.done = t.sent ∧
    ∀ entry ∈ t.done, entry.2 = .ok ()
  failed : t.offered ≠ [] → ∃ before operation e,
    t.done = before ++ [(operation, .error e)] ∧ (∀ entry ∈ before, entry.2 = .ok ()) ∧
      t.offered = [e] ∧ written t.done <+: t.sent ∧
      (t.loop.fatal = some e ∨ t.loop.errorHeard = false)

/-- What holds of a loop and what has gone through it, whatever has happened. -/
structure Orderly (t : Ledger) : Prop where
  queued : t.loop.isRunning = true → t.sent = t.passed ++ t.loop.records.queue
  wrote : t.loop.isRunning = true → written t.done = t.passed
  fine : t.loop.isRunning = true → ∀ entry ∈ t.done, entry.2 = .ok ()
  silent : t.loop.isRunning = true → t.offered = []
  shut : t.draining = true ∨ t.loop.isRunning = false → t.loop.records.closed = true
  ended : t.loop.final.isSome = true → Ended t

variable {t t' : Ledger}

theorem isRunning_iff {l : Loop} : l.isRunning = true ↔ l.final = none ∧ l.crashed = false := by
  simp [Loop.isRunning]

theorem follow_map {α β : Type} (l : Loop) (f : α → β) (result : Except SinkError α)
    (after : Sink × World) : l.follow (result.map f, after) = l.follow (result, after) := by
  cases result <;> rfl

theorem receive_follow {l : Loop} {w : World} {record : Bytes} {records : Channel}
    (first : l.records.take? = some (record, records)) :
    l.receive w
      = { l with records }.follow (performAll (l.sink.outputPlan record) l.sink w).2 := by
  simp only [Loop.receive, first, Sink.output_eq]

theorem tick_follow (l : Loop) (w : World) :
    l.tick w = { l with nextTick := l.nextTick + l.sink.settings.tickInterval }.follow
      (performAll (l.sink.tickPlan w) l.sink w).2 := by
  rw [Loop.tick, Sink.tick_eq]

theorem flush_follow (l : Loop) (w : World) :
    l.flush w = { l with sink := { l.sink with flushWaiting := false } }.follow
      (performAll [.rollOver] { l.sink with flushWaiting := false }
        (w.tell (.flushRequested l.sink.destination.describe))).2 := by
  rw [Sink.performAll_single, Operation.perform, follow_map]
  rfl

theorem fail_cases (l : Loop) (e : SinkError) (w : World) :
    (l.fail e w).1.records = l.records.drop ∧
      ((e.isCrash = true ∧ (l.fail e w).1.final = l.final ∧ (l.fail e w).1.crashed = true) ∨
        (e.isCrash = false ∧ (l.fail e w).1.final.isSome = true ∧
          ((l.fail e w).1.fatal = some e ∨ (l.fail e w).1.errorHeard = false))) := by
  rw [Loop.fail]
  split
  · next hcrash => exact ⟨rfl, .inl ⟨hcrash, rfl, rfl⟩⟩
  · next hcrash =>
    rw [Bool.not_eq_true] at hcrash
    dsimp only
    split
    · exact ⟨rfl, .inr ⟨hcrash, rfl, .inl rfl⟩⟩
    · next hheard => exact ⟨rfl, .inr ⟨hcrash, rfl, .inr (Bool.not_eq_true _ ▸ hheard)⟩⟩

theorem fail_stopped (l : Loop) (e : SinkError) (w : World) :
    (l.fail e w).1.isRunning = false := by
  rw [Bool.eq_false_iff, Ne, isRunning_iff]
  rintro ⟨hfinal, hcrashed⟩
  rcases (fail_cases l e w).2 with ⟨-, -, hcrash⟩ | ⟨-, hend, -⟩
  · rw [hcrash] at hcrashed
    exact absurd hcrashed (by simp)
  · rw [hfinal] at hend
    exact absurd hend (by simp)

section Call

variable {plan : List Operation} {s : Sink} {w : World} {taken : List Bytes} {l : Loop}

theorem orderly_call_ok (h : Orderly t) (running : t.loop.isRunning = true)
    (records : plan.filterMap Operation.record? = taken) (going : l.isRunning = true)
    (queue : t.loop.records.queue = taken ++ l.records.queue)
    (closed : l.records.closed = t.loop.records.closed)
    (hok : (performAll plan s w).2.1 = .ok ())
    (hdone : (performAll plan s w).1 = plan.map (·, .ok ())) :
    Orderly (t.call plan s w taken (l.follow (performAll plan s w).2)) := by
  have hloop : (l.follow (performAll plan s w).2).1
      = { l with sink := (performAll plan s w).2.2.1 } := by
    generalize performAll plan s w = result at hok
    obtain ⟨done, _, s', w'⟩ := result
    obtain rfl := hok
    rfl
  have hgoing :
      (t.call plan s w taken (l.follow (performAll plan s w).2)).loop.isRunning = true := by
    rw [call, hloop]
    exact going
  have hwritten : written (t.done ++ (performAll plan s w).1) = t.passed ++ taken := by
    rw [Sink.written_append, hdone, Sink.written_ok, h.wrote running, records]
  refine ⟨fun _ => ?_, fun _ => hwritten, fun _ => ?_, fun _ => ?_, fun hshut => ?_, fun hend => ?_⟩
  · rw [call, hloop, h.queued running, queue, ← List.append_assoc]
  · intro entry hmem
    rcases List.mem_append.mp hmem with hmem | hmem
    · exact h.fine running entry hmem
    · rw [hdone] at hmem
      obtain ⟨operation, -, rfl⟩ := List.mem_map.mp hmem
      rfl
  · rw [call, hok, h.silent running]
    rfl
  · rw [hgoing] at hshut
    rw [call, hloop]
    exact closed.trans (h.shut (hshut.imp_right fun hne => absurd hne (by simp)))
  · rw [call, hloop] at hend
    rw [(isRunning_iff.mp going).1] at hend
    exact absurd hend (by simp)

/-- A call of a running loop one of whose operations has failed: the loop has stopped. -/
theorem orderly_call_error {before after : List Operation} {operation : Operation} {e : SinkError}
    (h : Orderly t) (running : t.loop.isRunning = true)
    (records : plan.filterMap Operation.record? = taken) (going : l.isRunning = true)
    (queue : t.loop.records.queue = taken ++ l.records.queue)
    (hplan : plan = before ++ operation :: after)
    (herror : (performAll plan s w).2.1 = .error e)
    (hdone : (performAll plan s w).1 = before.map (·, .ok ()) ++ [(operation, .error e)]) :
    Orderly (t.call plan s w taken (l.follow (performAll plan s w).2)) := by
  have hloop : l.follow (performAll plan s w).2
      = { l with sink := (performAll plan s w).2.2.1 }.fail e (performAll plan s w).2.2.2 := by
    generalize performAll plan s w = result at herror
    obtain ⟨done, _, s', w'⟩ := result
    obtain rfl := herror
    rfl
  obtain ⟨hdrop, hcase⟩ := fail_cases { l with sink := (performAll plan s w).2.2.1 } e
    (performAll plan s w).2.2.2
  have hstopped :
      (t.call plan s w taken (l.follow (performAll plan s w).2)).loop.isRunning = false := by
    rw [call, hloop]
    exact fail_stopped _ _ _
  rw [← hloop] at hdrop hcase
  refine ⟨fun hgoing => ?_, fun hgoing => ?_, fun hgoing => ?_, fun hgoing => ?_, fun _ => ?_,
    fun hend => ?_⟩
  iterate 4 exact absurd (hstopped.symm.trans hgoing) (by simp)
  · rw [call, hdrop]
    rfl
  · rcases hcase with ⟨-, hfinal, -⟩ | ⟨hcrash, -, hheard⟩
    · rw [call, hfinal] at hend
      rw [(isRunning_iff.mp going).1] at hend
      exact absurd hend (by simp)
    · have hoffered : t.offered ++ offers (performAll plan s w).2.1 = [e] := by
        rw [h.silent running, herror, offers, if_neg (by simp [hcrash]), List.nil_append]
      refine ⟨fun hnone => absurd (hoffered.symm.trans hnone) (by simp), fun _ => ?_⟩
      refine ⟨t.done ++ before.map (·, .ok ()), operation, e, ?_, ?_, hoffered, ?_, hheard⟩
      · rw [call, hdone, List.append_assoc]
      · intro entry hmem
        rcases List.mem_append.mp hmem with hmem | hmem
        · exact h.fine running entry hmem
        · obtain ⟨operation, -, rfl⟩ := List.mem_map.mp hmem
          rfl
      · have hbefore : before.filterMap Operation.record? <+: taken := by
          rw [← records, hplan, List.filterMap_append]
          exact List.prefix_append _ _
        have hwritten : written (t.done ++ (performAll plan s w).1)
            = t.passed ++ before.filterMap Operation.record? := by
          rw [Sink.written_append, hdone, Sink.written_append, Sink.written_ok, h.wrote running]
          simp [written]
        rw [call, hwritten, h.queued running, queue, ← List.append_assoc]
        exact ((List.prefix_append_right_inj _).mpr hbefore).trans (List.prefix_append _ _)

theorem orderly_call (h : Orderly t) (running : t.loop.isRunning = true)
    (records : plan.filterMap Operation.record? = taken) (going : l.isRunning = true)
    (queue : t.loop.records.queue = taken ++ l.records.queue)
    (closed : l.records.closed = t.loop.records.closed) :
    Orderly (t.call plan s w taken (l.follow (performAll plan s w).2)) := by
  rcases Sink.performAll_cases plan s w with
    ⟨hok, hdone⟩ | ⟨before, operation, after, e, hplan, herror, hdone⟩
  · exact orderly_call_ok h running records going queue closed hok hdone
  · exact orderly_call_error h running records going queue hplan herror hdone

end Call

theorem Orderly.of_same {l : Loop} {w : World} (h : Orderly t)
    (records : l.records.queue = t.loop.records.queue)
    (closed : l.records.closed = t.loop.records.closed) (final : l.final = t.loop.final)
    (crashed : l.crashed = t.loop.crashed) (fatal : l.fatal = t.loop.fatal)
    (heard : t.loop.errorHeard = false → l.errorHeard = false) :
    Orderly { t with loop := l, world := w } := by
  have hrunning : l.isRunning = t.loop.isRunning := by
    rw [Loop.isRunning, Loop.isRunning, final, crashed]
  refine ⟨fun going => ?_, fun going => ?_, fun going => ?_, fun going => ?_, fun hshut => ?_,
    fun hend => ?_⟩
  · exact (h.queued (hrunning ▸ going)).trans (by rw [← records])
  · exact h.wrote (hrunning ▸ going)
  · exact h.fine (hrunning ▸ going)
  · exact h.silent (hrunning ▸ going)
  · exact closed.trans (h.shut (hrunning ▸ hshut))
  · have ended := h.ended (final ▸ hend)
    refine ⟨ended.calm, fun hne => ?_⟩
    obtain ⟨before, operation, e, hdone, hfine, hoffered, hwritten, hheard⟩ := ended.failed hne
    exact ⟨before, operation, e, hdone, hfine, hoffered, hwritten,
      hheard.imp (fun heq => fatal.trans heq) heard⟩

/-- A loop that stops when nothing is queued has passed on all that was sent. -/
theorem Orderly.stop {w : World} (h : Orderly t) (running : t.loop.isRunning = true)
    (none : t.loop.records.queue = []) :
    Orderly { t with loop := (t.loop.stop w).1, world := (t.loop.stop w).2 } := by
  have hstopped : (t.loop.stop w).1.isRunning = false := by
    rw [Bool.eq_false_iff, Ne, isRunning_iff]
    rintro ⟨hfinal, -⟩
    exact absurd hfinal (by simp [Loop.stop])
  have hsent := h.queued running
  rw [none, List.append_nil] at hsent
  refine ⟨fun hgoing => ?_, fun hgoing => ?_, fun hgoing => ?_, fun hgoing => ?_, fun _ => rfl,
    fun _ => ?_⟩
  iterate 4 exact absurd (hstopped.symm.trans hgoing) (by simp)
  refine ⟨fun _ => ⟨hsent.symm, (h.wrote running).trans hsent.symm, h.fine running⟩, fun hne => ?_⟩
  exact absurd (h.silent running) hne

/-- A loop that breaks off has ended neither in order nor on an error. -/
theorem orderly_crash {s : Sink} {w : World} (running : t.loop.isRunning = true) :
    Orderly { t with loop := { t.loop with sink := s }.crash, world := w } := by
  have hstopped : ({ t.loop with sink := s } : Loop).crash.isRunning = false := by
    rw [Bool.eq_false_iff, Ne, isRunning_iff]
    rintro ⟨-, hcrashed⟩
    exact absurd hcrashed (by simp [Loop.crash])
  refine ⟨fun hgoing => ?_, fun hgoing => ?_, fun hgoing => ?_, fun hgoing => ?_, fun _ => rfl,
    fun hend => ?_⟩
  iterate 4 exact absurd (hstopped.symm.trans hgoing) (by simp)
  have hfinal : t.loop.final.isSome = true := hend
  rw [(isRunning_iff.mp running).1] at hfinal
  exact absurd hfinal (by simp)

theorem Orderly.send {record : Bytes} {records : Channel} (h : Orderly t)
    (room : t.loop.records.offer record = .sent records) :
    Orderly { t with loop := { t.loop with records }, sent := t.sent ++ [record] } := by
  rw [Channel.offer] at room
  split at room
  · exact absurd room (by simp)
  next hopen =>
  split at room
  · obtain rfl := Offer.sent.inj room
    -- a channel that takes records belongs to a loop that goes on
    have running : t.loop.isRunning = true := by
      cases hrunning : t.loop.isRunning with
      | true => rfl
      | false => exact absurd (h.shut (.inr hrunning)) hopen
    refine ⟨fun _ => ?_, h.wrote, h.fine, h.silent, h.shut, fun hend => ?_⟩
    · rw [h.queued running, List.append_assoc]
    · have hfinal : t.loop.final.isSome = true := hend
      rw [(isRunning_iff.mp running).1] at hfinal
      exact absurd hfinal (by simp)
  · exact absurd room (by simp)

theorem Orderly.step (h : Orderly t) (step : Step t t') : Orderly t' := by
  cases step with
  | send record records more room => exact h.send room
  | finish => exact h.of_same rfl rfl rfl rfl rfl id
  | cancel => exact h.of_same rfl rfl rfl rfl rfl id
  | requestFlush =>
    rw [Loop.requestFlush]
    split
    · exact h.of_same rfl rfl rfl rfl rfl id
    · exact h
  | unhear => exact h.of_same rfl rfl rfl rfl rfl fun _ => rfl
  | others uploads outcomes destination world => exact h.of_same rfl rfl rfl rfl rfl id
  | receive record records running first =>
    have hqueue : t.loop.records.queue = record :: records.queue ∧
        records.closed = t.loop.records.closed := by
      rw [Channel.take?] at first
      split at first
      · exact absurd first (by simp)
      · next record' rest hqueue =>
        simp only [Option.some.injEq, Prod.mk.injEq] at first
        obtain ⟨rfl, rfl⟩ := first
        exact ⟨hqueue, rfl⟩
    rw [receive_follow first]
    exact orderly_call h running (Sink.outputPlan_records _ record) running hqueue.1 hqueue.2
  | tick running open' =>
    rw [tick_follow]
    exact orderly_call h running (Sink.tickPlan_records _ _) running rfl rfl
  | flush running open' waiting =>
    rw [flush_follow]
    exact orderly_call h running rfl running rfl rfl
  | takeOutcome running open' =>
    rw [Loop.takeOutcome]
    split
    · exact h
    · dsimp only
      split
      · exact orderly_crash running
      · exact h.of_same rfl rfl rfl rfl rfl id
  | endOfRecords running open' none last => exact h.stop running none
  | drain running open' cancelled =>
    refine ⟨h.queued, h.wrote, h.fine, h.silent, fun _ => rfl, fun hend => ?_⟩
    have hfinal : t.loop.final.isSome = true := hend
    rw [(isRunning_iff.mp running).1] at hfinal
    exact absurd hfinal (by simp)
  | drained w running draining none => exact h.stop running none

theorem orderly_start (s : Sink) (capacity : Nat) (w : World) : Orderly (start s capacity w) := by
  rw [start, Loop.start]
  split
  · refine ⟨fun hgoing => ?_, fun hgoing => ?_, fun hgoing => ?_, fun hgoing => ?_, fun _ => rfl,
      fun hend => absurd hend (by simp [Loop.crash])⟩
    iterate 4 exact absurd hgoing (by simp [Loop.isRunning, Loop.crash])
  · refine ⟨fun _ => rfl, fun _ => rfl, fun _ entry hmem => absurd hmem List.not_mem_nil,
      fun _ => rfl, fun hshut => ?_, fun hend => absurd hend (by simp)⟩
    rcases hshut with hdraining | hstopped
    · exact absurd hdraining (by simp)
    · exact absurd hstopped (by simp [Loop.isRunning])

theorem Orderly.run (h : Orderly t) (run : Run t t') : Orderly t' := by
  induction run with
  | refl => exact h
  | tail _ step ih => exact ih.step step

/-! ### The order that a loop takes -/

/-- A ledger whose loop, as long as it goes on, takes in all that comes. -/
def Open (t : Ledger) : Prop :=
  t.loop.isRunning = true → t.draining = false

/-- A loop in its world comes from another by steps, none of which sends a record. -/
def Leads (before after : Loop × World) : Prop :=
  ∀ t : Ledger, t.loop = before.1 → t.world = before.2 → t.Open →
    ∃ t', Run t t' ∧ t'.loop = after.1 ∧ t'.world = after.2 ∧ t'.sent = t.sent ∧ t'.Open

variable {l : Loop} {w : World}

theorem Leads.refl (state : Loop × World) : Leads state state :=
  fun t hloop hworld hopen => ⟨t, .refl, hloop, hworld, rfl, hopen⟩

theorem Leads.trans {a b c : Loop × World} (h : Leads a b) (h' : Leads b c) : Leads a c := by
  intro t hloop hworld hopen
  obtain ⟨t₁, run₁, hloop₁, hworld₁, hsent₁, hopen₁⟩ := h t hloop hworld hopen
  obtain ⟨t₂, run₂, hloop₂, hworld₂, hsent₂, hopen₂⟩ := h' t₁ hloop₁ hworld₁ hopen₁
  exact ⟨t₂, run₁.trans run₂, hloop₂, hworld₂, hsent₂.trans hsent₁, hopen₂⟩

theorem leads_others (l : Loop) (w w' : World) (uploads : List Upload) (outcomes : List Outcome)
    (destination : Destination) :
    Leads (l, w) ({ l with sink := { l.sink with uploads, outcomes, destination } }, w') := by
  rintro t rfl rfl hopen
  exact ⟨_, .single (.others t uploads outcomes destination w'), rfl, rfl, rfl, hopen⟩

theorem leads_world (l : Loop) (w w' : World) : Leads (l, w) (l, w') :=
  leads_others l w w' l.sink.uploads l.sink.outcomes l.sink.destination

theorem leads_receive (running : l.isRunning = true) : Leads (l, w) (l.receive w) := by
  cases hfirst : l.records.take? with
  | none =>
    rw [Loop.receive, hfirst]
    exact .refl _
  | some taken =>
    obtain ⟨record, records⟩ := taken
    rintro t rfl rfl hopen
    refine ⟨_, .single (.receive t record records running hfirst), rfl, rfl, rfl, fun _ => ?_⟩
    exact hopen running

theorem leads_receiveAll (n : Nat) (l : Loop) (w : World) :
    Leads (l, w) (Loop.receiveAll n l w) := by
  induction n generalizing l w with
  | zero => exact .refl _
  | succ n ih =>
    rw [Loop.receiveAll]
    split
    · next running => exact (leads_receive running).trans (ih _ _)
    · exact .refl _

theorem leads_tick (running : l.isRunning = true) : Leads (l, w) (l.tick w) := by
  rintro t rfl rfl hopen
  exact ⟨_, .single (.tick t running (hopen running)), rfl, rfl, rfl, fun _ => hopen running⟩

theorem leads_flush (running : l.isRunning = true) (waiting : l.sink.flushWaiting = true) :
    Leads (l, w) (l.flush w) := by
  rintro t rfl rfl hopen
  refine ⟨_, .single (.flush t running (hopen running) waiting), rfl, rfl, rfl, fun _ => ?_⟩
  exact hopen running

theorem leads_takeOutcome (running : l.isRunning = true) : Leads (l, w) (l.takeOutcome w) := by
  rintro t rfl rfl hopen
  exact ⟨_, .single (.takeOutcome t running (hopen running)), rfl, rfl, rfl, fun _ => hopen running⟩

theorem leads_takeOutcomes (l : Loop) (w : World) : Leads (l, w) (l.takeOutcomes w) := by
  rw [Loop.takeOutcomes]
  generalize List.range l.sink.outcomes.length = turns
  induction turns generalizing l w with
  | nil => exact .refl _
  | cons turn rest ih =>
    rw [List.foldl_cons]
    split
    · next running => exact (leads_takeOutcome running).trans (ih _ _)
    · exact ih l w

theorem leads_endOfRecords (running : l.isRunning = true) (none : l.records.queue = [])
    (last : l.records.finished = true) : Leads (l, w) (l.endOfRecords w) := by
  rintro t rfl rfl hopen
  exact ⟨_, .single (.endOfRecords t running (hopen running) none last), rfl, rfl, rfl,
    fun _ => hopen running⟩

theorem leads_requestFlush (l : Loop) (w : World) : Leads (l, w) (l.requestFlush.2, w) := by
  rintro t rfl rfl hopen
  refine ⟨_, .single (.requestFlush t), rfl, rfl, rfl, fun running => hopen ?_⟩
  change t.loop.requestFlush.2.isRunning = true at running
  rw [Loop.requestFlush] at running
  split at running
  · next h => exact h
  · exact running

theorem fail_records (l : Loop) (records : Channel) (e : SinkError) (w : World)
    (same : records.drop = l.records.drop) : { l with records }.fail e w = l.fail e w := by
  have hcrash : ({ l with records } : Loop).crash = l.crash := by
    rw [Loop.crash, Loop.crash]
    dsimp only
    rw [same]
  have hstop : ∀ (fatal : Option SinkError) (w : World),
      ({ l with records, fatal } : Loop).stop w = ({ l with fatal } : Loop).stop w := by
    intro fatal w
    rw [Loop.stop, Loop.stop]
    dsimp only
    rw [same]
  rw [Loop.fail, Loop.fail, hcrash]
  dsimp only
  rw [hstop (some e), hstop l.fatal]

/-- The loop drains by taking in what is queued, one record after the other. -/
theorem run_writeAll (queue : List Bytes) (n : Nat) (t : Ledger)
    (running : t.loop.isRunning = true) (draining : t.draining = true)
    (hqueue : t.loop.records.queue = queue) :
    ∃ t', Run t t' ∧ t'.sent = t.sent ∧
      match Loop.writeAll queue n t.loop.sink t.world with
      | (.error e, sink, w) => (t'.loop, t'.world) = { t.loop with sink }.fail e w
      | (.ok _, sink, w) => t'.draining = true ∧ t'.world = w ∧
          t'.loop = { t.loop with sink, records := { t.loop.records with queue := [] } } := by
  induction queue generalizing n t with
  | nil => exact ⟨t, .refl, rfl, draining, rfl, by rw [← hqueue]⟩
  | cons record rest ih =>
    have hfirst : t.loop.records.take? = some (record, { t.loop.records with queue := rest }) := by
      rw [Channel.take?, hqueue]
    have hstep := Step.receive t record _ running hfirst
    have hreceive : t.loop.receive t.world =
        { t.loop with records := { t.loop.records with queue := rest } }.follow
          (t.loop.sink.output record t.world) := by
      rw [Loop.receive, hfirst]
    rw [hreceive] at hstep
    rw [Loop.writeAll]
    rcases houtput : t.loop.sink.output record t.world with ⟨e | _, s', w'⟩
    · rw [houtput] at hstep
      refine ⟨_, .single hstep, rfl, ?_⟩
      exact fail_records { t.loop with sink := s' } _ e w' rfl
    · rw [houtput] at hstep
      obtain ⟨t', run, hsent, hafter⟩ := ih (n + 1)
        (t.call (t.loop.sink.outputPlan record) t.loop.sink t.world [record]
          ({ t.loop with sink := s', records := { t.loop.records with queue := rest } }, w'))
        running draining rfl
      refine ⟨t', .head hstep run, hsent, ?_⟩
      revert hafter
      dsimp only [call, Loop.follow]
      generalize Loop.writeAll rest (n + 1) s' w' = result
      obtain ⟨e | m, s'', w''⟩ := result
      · intro hafter
        rw [hafter]
        exact fail_records { t.loop with sink := s'' } _ e w'' rfl
      · exact id

theorem leads_drain (running : l.isRunning = true) (cancelled : l.cancelled = true) :
    Leads (l, w) (l.drain w) := by
  rintro t rfl rfl hopen
  have hdrain := Step.drain t running (hopen running) cancelled
  obtain ⟨t', run, hsent, hafter⟩ := run_writeAll t.loop.records.queue 0
    { t with
      loop := { t.loop with records := t.loop.records.close }
      world := t.world.tell (.cancelled t.loop.sink.display), draining := true } running rfl rfl
  revert hafter
  rw [Loop.drain]
  dsimp only
  generalize Loop.writeAll t.loop.records.queue 0 t.loop.sink
    (t.world.tell (.cancelled t.loop.sink.display)) = result
  obtain ⟨e | n, s', w'⟩ := result
  · intro hafter
    have hfail : (t'.loop, t'.world)
        = { t.loop with sink := s', records := t.loop.records.drop }.fail e w' := by
      rw [hafter]
      exact fail_records { t.loop with sink := s', records := t.loop.records.drop } _ e w' rfl
    have hloop : t'.loop = _ := congrArg Prod.fst hfail
    refine ⟨t', .head hdrain run, hloop, congrArg Prod.snd hfail, hsent, fun going => ?_⟩
    rw [hloop, fail_stopped] at going
    exact absurd going (by simp)
  · rintro ⟨hdraining, hworld, hloop⟩
    have hrunning : t'.loop.isRunning = true := by
      rw [hloop]
      exact running
    have hstep := Step.drained t' (if n = 0 then w' else w'.tell (.drained s'.display n)) hrunning
      hdraining (by rw [hloop])
    rw [hloop] at hstep
    refine ⟨_, (Relation.ReflTransGen.head hdrain run).tail hstep, rfl, rfl, hsent, fun going => ?_⟩
    exact absurd going (by simp [Loop.isRunning, Loop.stop])

theorem receive_queue (l : Loop) (w : World) :
    (l.receive w).1.records.queue.length ≤ l.records.queue.length - 1 := by
  rw [Loop.receive, Channel.take?]
  rcases hqueue : l.records.queue with _ | ⟨record, rest⟩
  · simp [hqueue]
  · dsimp only
    rcases l.sink.output record w with ⟨e | _, s', w'⟩
    · rw [Loop.follow, (fail_cases _ e w').1]
      exact Nat.zero_le _
    · exact Nat.le_refl _

theorem receiveAll_queue (n : Nat) (l : Loop) (w : World) (enough : l.records.queue.length ≤ n)
    (going : (Loop.receiveAll n l w).1.isRunning = true) :
    (Loop.receiveAll n l w).1.records.queue = [] := by
  induction n generalizing l w with
  | zero => exact List.eq_nil_of_length_eq_zero (Nat.le_zero.mp enough)
  | succ n ih =>
    rw [Loop.receiveAll] at going ⊢
    split at going
    · next running =>
      rw [if_pos running]
      have hless : (l.receive w).1.records.queue.length ≤ n := by
        have hdown := receive_queue l w
        omega
      exact ih (l.receive w).1 (l.receive w).2 hless going
    · next stopped => exact absurd going stopped

theorem leads_settleInputs (l : Loop) (w : World) : Leads (l, w) (l.settleInputs w) := by
  rw [Loop.settleInputs]
  split
  · exact .refl _
  next hrunning =>
  simp only [Bool.not_eq_true, Bool.not_eq_false'] at hrunning
  split
  · next hcancelled => exact leads_drain hrunning hcancelled
  · refine (leads_receiveAll l.records.queue.length l w).trans ?_
    have hempty := receiveAll_queue l.records.queue.length l w (Nat.le_refl _)
    generalize Loop.receiveAll l.records.queue.length l w = state at hempty
    obtain ⟨l', w'⟩ := state
    dsimp only at hempty ⊢
    split
    · exact .refl _
    next hgoing =>
    simp only [Bool.not_eq_true, Bool.not_eq_false'] at hgoing
    split
    · next hlast => exact leads_endOfRecords hgoing (hempty hgoing) hlast
    · split
      · next hwaiting => exact leads_flush hgoing hwaiting
      · exact .refl _

/-- All that a loop does until nothing more is ready is a run. -/
theorem leads_settle (l : Loop) (w : World) : Leads (l, w) (l.settle w) := by
  refine (leads_settleInputs l w).trans ?_
  rw [Loop.settle]
  generalize l.settleInputs w = state
  obtain ⟨l', w'⟩ := state
  refine .trans (b := ({ l' with sink := (l'.sink.advanceUploads w').1 },
    (l'.sink.advanceUploads w').2)) (leads_others l' w' _ _ _ _) ?_
  dsimp only
  split
  · exact leads_takeOutcomes _ _
  · exact .refl _

theorem leads_passTo (target ticks : Nat) (l : Loop) (w : World) :
    Leads (l, w) (Loop.passTo target ticks l w) := by
  induction ticks generalizing l w with
  | zero => exact leads_world l w _
  | succ ticks ih =>
    rw [Loop.passTo]
    split
    · next due =>
      have running : l.isRunning = true := (Bool.and_eq_true_iff.mp due).1
      let woken := { w with now := max w.now (Loop.firingTime l.nextTick) }
      have htick : Leads (l, w) (l.tick woken) := (leads_world l w woken).trans (leads_tick running)
      have hsettle : Leads (l, w) ((l.tick woken).1.settle (l.tick woken).2) :=
        htick.trans (leads_settle _ _)
      exact hsettle.trans (ih _ _)
    · exact leads_world l w _

/-- All that a loop does while time passes is a run. -/
theorem leads_pass (l : Loop) (nanos : Nat) (w : World) : Leads (l, w) (l.pass nanos w) :=
  leads_passTo _ _ l w

/-! ### What has gone through a loop -/

/-- Once a loop has begun to drain, nothing is sent any more. A loop that has ended without an error
has passed on all that was sent, each record once and in order, and has written it. On an error it
has written the first of them, the operation that failed is the last of all, and its error is the
only one that was offered. -/
theorem conserved {s : Sink} {capacity : Nat} {w : World} (run : Run (start s capacity w) t) :
    (t.draining = true ∨ t.loop.final.isSome = true →
      ∀ record, t.loop.records.offer record = .refused) ∧
    (t.loop.final.isSome = true → t.offered = [] →
      t.passed = t.sent ∧ written t.done = t.sent ∧ ∀ entry ∈ t.done, entry.2 = .ok ()) ∧
    (t.loop.final.isSome = true → t.offered ≠ [] → ∃ before operation e,
      t.done = before ++ [(operation, .error e)] ∧ (∀ entry ∈ before, entry.2 = .ok ()) ∧
        t.offered = [e] ∧ written t.done <+: t.sent ∧
        (t.loop.fatal = some e ∨ t.loop.errorHeard = false)) := by
  have h := (orderly_start s capacity w).run run
  refine ⟨fun hshut record => ?_, fun hend => (h.ended hend).calm,
    fun hend => (h.ended hend).failed⟩
  have hclosed : t.loop.records.closed = true := by
    refine h.shut (hshut.imp_right fun hend => ?_)
    rw [Bool.eq_false_iff, Ne, isRunning_iff]
    rintro ⟨hfinal, -⟩
    rw [hfinal] at hend
    exact absurd hend (by simp)
  rw [Channel.offer, if_pos hclosed]

/-- A loop that has been sent two records and is told to stop. -/
def cancelledWithTwo (s : Sink) (w : World) : Ledger :=
  let t := start s 2 w
  let records := { t.loop.records with queue := [[97], [98]] }
  { t with loop := { t.loop with records, cancelled := true }, sent := [[97], [98]] }

/-- A loop that is told to stop while two records are queued writes them both. -/
theorem conserved_over_cancellation :
    ∃ s w t, Sink.start { Settings.default with connection := "buf:dest".toList }
        (some (.archive .unset)) (.fresh ['w']) = (.ok s, w) ∧
      Run (start s 2 w) t ∧ t.loop.final.isSome = true ∧
      t.passed = [[97], [98]] ∧ written t.done = [[97], [98]] ∧
      ∀ record, t.loop.records.offer record = .refused := by
  have hcheck : Sink.passes (Sink.start { Settings.default with connection := "buf:dest".toList }
      (some (.archive .unset)) (.fresh ['w'])) (fun s w =>
        let l := ((cancelledWithTwo s w).loop.settle (cancelledWithTwo s w).world).1
        decide (s.settings.tickInterval ≠ 0) && l.final.isSome && l.fatal.isNone && l.errorHeard)
        = true := by decide +kernel
  obtain ⟨s, w, hstart, hcheck⟩ := Sink.exists_of_passes hcheck
  simp only [Bool.and_eq_true, decide_eq_true_eq, Option.isNone_iff_eq_none] at hcheck
  obtain ⟨⟨⟨hinterval, hfinal⟩, hfatal⟩, hheard⟩ := hcheck
  have hloop : (start s 2 w).loop.records = .ofCapacity 2 := by
    simp [start, Loop.start, hinterval]
  have sending : Run (start s 2 w) (cancelledWithTwo s w) := by
    have first := Step.send (start s 2 w) [97]
      { (start s 2 w).loop.records with queue := [[97]] } (by rw [hloop]; rfl) (by rw [hloop]; rfl)
    have second := Step.send
      { start s 2 w with
        loop := { (start s 2 w).loop with
          records := { (start s 2 w).loop.records with queue := [[97]] } }
        sent := [[97]] }
      [98] { (start s 2 w).loop.records with queue := [[97], [98]] }
      (by rw [hloop]; rfl) (by rw [hloop]; rfl)
    exact ((Relation.ReflTransGen.single first).tail second).tail (.cancel _)
  obtain ⟨t, settling, hsettled, -, hsent, -⟩ :=
    leads_settle _ _ (cancelledWithTwo s w) rfl rfl (fun _ => rfl)
  have run := sending.trans settling
  rw [← hsettled] at hfinal hfatal hheard
  obtain ⟨refused, calm, failed⟩ := conserved run
  -- no error was heard of, so none was offered
  have hoffered : t.offered = [] := by
    by_contra hne
    obtain ⟨-, -, e, -, -, -, -, hfault | hdeaf⟩ := failed hfinal hne
    · rw [hfatal] at hfault
      exact absurd hfault (by simp)
    · rw [hheard] at hdeaf
      exact absurd hdeaf (by simp)
  obtain ⟨hpassed, hwritten, -⟩ := calm hfinal hoffered
  exact ⟨s, w, t, hstart, run, hfinal, hpassed.trans hsent, hwritten.trans hsent,
    refused (.inr hfinal)⟩

end Ledger

end Outbox
