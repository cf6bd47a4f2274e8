import Mathlib.Tactic.ByContra
import Outbox.Proofs.Sink.Chronicle

/-!
# The age of the live file

Whatever rolls the live file over sets its clock back to now, and a tick rolls it over when more
than the interval has passed since. So right after a tick the live file is no older than the
interval, and before the next tick, one period later, it cannot get older than the interval and the
period together (`Chronicle.age_bounded`). This needs that each tick is taken in when it falls due,
which is said of the states of a run (`Punctual`): none of them is later than the next tick.
-/

set_option autoImplicit false

namespace Outbox

open Sink (Operation Done performAll rolls)

/-! ### Rollovers -/

namespace Sink

theorem countP_performAll (plan : List Operation) (s : Sink) (w : World) :
    (performAll plan s w).1.countP rolls ≤ plan.count .rollOver ∧
      ((performAll plan s w).2.1 = .ok () →
        (performAll plan s w).1.countP rolls = plan.count .rollOver) := by
  have succeeded : ∀ plan : List Operation,
      (plan.map (·, Except.ok ())).countP rolls = plan.count .rollOver := by
    intro plan
    rw [List.countP_map, List.count]
    congr 1
    funext operation
    cases operation <;> rfl
  rcases performAll_cases plan s w with ⟨-, hdone⟩ | ⟨before, failed, after, e, rfl, herror, hdone⟩
  · rw [hdone, succeeded]
    exact ⟨Nat.le_refl _, fun _ => rfl⟩
  · refine ⟨?_, fun hok => absurd (herror.symm.trans hok) (by simp)⟩
    rw [hdone, List.countP_append, succeeded, List.count_append]
    have hfailed : [(failed, Except.error e)].countP rolls = 0 := by cases failed <;> rfl
    omega

theorem count_tickPlan (s : Sink) (w : World) :
    (s.tickPlan w).count .rollOver = (s.isOverdue w).toNat := by
  rw [tickPlan]
  cases s.isOverdue w <;> rfl

end Sink

namespace Entry

def rollover? : Entry → Option (Cause × Nat)
  | .did cause now done => if rolls done then some (cause, now) else none
  | .requested _ => none

def isTick : Entry → Bool
  | .did .tick _ _ => true
  | _ => false

theorem isTick_of_isByHand {entry : Entry} (h : entry.isByHand = true) :
    entry.isTick = false := by
  rcases entry with answer | ⟨cause, now, done⟩
  · rfl
  · obtain rfl : cause = .hand := of_decide_eq_true h
    rfl

theorem rollovers_did (cause : Cause) (now : Nat) (done : List Done) :
    (done.map (Entry.did cause now)).filterMap rollover?
      = List.replicate (done.countP rolls) (cause, now) := by
  induction done with
  | nil => rfl
  | cons first rest ih =>
    rw [List.map_cons, List.filterMap_cons, ih, List.countP_cons]
    cases hrolls : rolls first <;> simp [rollover?, hrolls, List.replicate_succ]

end Entry

namespace Chronicle

def rollovers (t : Chronicle) : List (Cause × Nat) :=
  t.entries.filterMap Entry.rollover?

/-- The time of the last rollover, or of opening when there has been none. -/
def lastRolled (opened : Nat) (rollovers : List (Cause × Nat)) : Nat :=
  (rollovers.getLast?.map Prod.snd).getD opened

/-- The running time is not past the next tick of a loop that goes on. -/
def Punctual (t : Chronicle) : Prop :=
  t.phase.isOpen = true → ∀ tick, t.phase.nextTick? = some tick → t.world.now ≤ tick

/-- A run in which each tick is taken in when it falls due. -/
abbrev TimedRun : Chronicle → Chronicle → Prop :=
  Relation.ReflTransGen fun t t' => Step t t' ∧ Punctual t'

variable {t t' : Chronicle} {settings : Settings} {opened : Nat}

theorem TimedRun.run (timed : TimedRun t t') : Run t t' := by
  induction timed with
  | refl => exact .refl
  | tail _ step ih => exact ih.tail step.1

theorem lastRolled_append (opened : Nat) (before after : List (Cause × Nat)) :
    lastRolled opened (before ++ after) = lastRolled (lastRolled opened before) after := by
  rw [lastRolled, lastRolled, lastRolled, List.getLast?_append]
  cases after.getLast? <;> rfl

theorem lastRolled_replicate (opened n : Nat) (cause : Cause) (now : Nat) :
    lastRolled opened (List.replicate n (cause, now)) = if n = 0 then opened else now := by
  rw [lastRolled, List.getLast?_replicate]
  split <;> rfl

/-! ### What a run keeps -/

/-- What holds of the clocks of a sink with some settings that was opened at some time. -/
structure Timed (settings : Settings) (opened : Nat) (t : Chronicle) : Prop where
  same : t.phase.isOpen = true → t.phase.sink.settings = settings
  rolledAt : t.phase.isOpen = true → t.phase.sink.live.rolledAt = lastRolled opened t.rollovers
  past : t.phase.isOpen = true → t.phase.sink.live.rolledAt ≤ t.world.now
  /-- Once there has been a tick, the next one comes before the live file is too old. -/
  next : t.phase.isOpen = true → (∃ entry ∈ t.entries, entry.isTick = true) →
    ∀ tick, t.phase.nextTick? = some tick →
      tick ≤ t.phase.sink.live.rolledAt + settings.rollInterval + settings.tickInterval
  apart : ∀ before now after, t.rollovers = before ++ (.tick, now) :: after →
    lastRolled opened before + settings.rollInterval < now

theorem Timed.of_same (h : Timed settings opened t) (rollovers : t'.rollovers = t.rollovers)
    (isOpen : t'.phase.isOpen = true → t.phase.isOpen = true)
    (same : t'.phase.isOpen = true → t'.phase.sink.settings = t.phase.sink.settings ∧
      t'.phase.sink.live = t.phase.sink.live ∧ t.world.now ≤ t'.world.now)
    (next : t'.phase.isOpen = true → (∃ entry ∈ t'.entries, entry.isTick = true) →
      (∃ entry ∈ t.entries, entry.isTick = true) ∧ t'.phase.nextTick? = t.phase.nextTick?) :
    Timed settings opened t' where
  same := fun going => (same going).1.trans (h.same (isOpen going))
  rolledAt := fun going => by
    rw [(same going).2.1, rollovers]
    exact h.rolledAt (isOpen going)
  past := fun going => by
    rw [(same going).2.1]
    exact (h.past (isOpen going)).trans (same going).2.2
  next := fun going ticked => by
    obtain ⟨hticked, hnext⟩ := next going ticked
    rw [(same going).2.1, hnext]
    exact h.next (isOpen going) hticked
  apart := by
    rw [rollovers]
    exact h.apart

section Call

variable {cause : Cause} {plan : List Operation} {s : Sink} {w : World}

theorem Called.rollovers (called : Called t cause plan s w t') :
    t'.rollovers = t.rollovers
      ++ List.replicate ((performAll plan s w).1.countP rolls) (cause, t.world.now) := by
  rw [Chronicle.rollovers, called.entries, List.filterMap_append, Entry.rollovers_did, called.now]
  rfl

/-- A call takes no time, and the clock of the live file is set back if it rolls it over. -/
theorem Called.rolledAt (called : Called t cause plan s w t') (going : t'.phase.isOpen = true) :
    t'.world.now = t.world.now ∧ t'.phase.sink.live.rolledAt
      = if (performAll plan s w).1.countP rolls = 0 then t.phase.sink.live.rolledAt
        else t.world.now := by
  have hclock := called.clock going
  refine ⟨hclock.timeless.now.trans called.now, ?_⟩
  rw [hclock.rolledAt, called.live, called.now]
  by_cases hany : (performAll plan s w).1.any rolls = true
  · have hpos : (performAll plan s w).1.countP rolls ≠ 0 := by
      rw [Ne, List.countP_eq_zero]
      obtain ⟨done, hmem, hrolls⟩ := List.any_eq_true.mp hany
      exact fun hall => hall done hmem hrolls
    rw [if_pos hany, if_neg hpos]
  · have hzero : (performAll plan s w).1.countP rolls = 0 := by
      rw [List.countP_eq_zero]
      exact fun done hmem hrolls => hany (List.any_eq_true.mpr ⟨done, hmem, hrolls⟩)
    rw [if_neg hany, if_pos hzero]

theorem Timed.called (h : Timed settings opened t) (called : Called t cause plan s w t')
    (next : t'.phase.isOpen = true → (∃ entry ∈ t'.entries, entry.isTick = true) →
      ∀ tick, t'.phase.nextTick? = some tick →
        tick ≤ t'.phase.sink.live.rolledAt + settings.rollInterval + settings.tickInterval)
    (apart : ∀ before now after, t'.rollovers = before ++ (.tick, now) :: after →
      lastRolled opened before + settings.rollInterval < now) : Timed settings opened t' where
  same := fun going =>
    ((called.clock going).settings.trans called.settings).trans (h.same called.isOpen)
  rolledAt := fun going => by
    rw [(called.rolledAt going).2, called.rollovers, lastRolled_append, lastRolled_replicate,
      h.rolledAt called.isOpen]
  past := fun going => by
    obtain ⟨hnow, hrolled⟩ := called.rolledAt going
    have hpast := h.past called.isOpen
    rw [hnow, hrolled]
    split <;> omega
  next := next
  apart := apart

theorem Timed.other (h : Timed settings opened t) (called : Called t cause plan s w t')
    (other : cause ≠ .tick)
    (next : t'.phase.isOpen = true → t'.phase.nextTick? = t.phase.nextTick?) :
    Timed settings opened t' := by
  refine h.called called (fun going ticked tick htick => ?_) fun before now after hsplit => ?_
  · rw [called.entries] at ticked
    have hbefore := exists_of_append ticked <| List.forall_mem_map.mpr fun done _ => by
      cases cause <;> simp [Entry.isTick] at other ⊢
    -- a rollover only sets the clock of the live file forward, and the next tick stays where it is
    have hmost := h.next called.isOpen hbefore tick (next going ▸ htick)
    have hpast := h.past called.isOpen
    rw [(called.rolledAt going).2]
    split <;> omega
  · rw [called.rollovers] at hsplit
    obtain ⟨between, -, hbefore⟩ := split_of_append hsplit fun hmem =>
      other (Prod.mk.inj (List.eq_of_mem_replicate hmem)).1.symm
    exact h.apart before now between hbefore

end Call

theorem Timed.isOverdue {l : Loop} (h : Timed settings opened t)
    (called : Called t .tick (l.sink.tickPlan t.world) l.sink t.world t') :
    l.sink.isOverdue t.world
      = decide (settings.rollInterval < t.phase.sink.live.age t.world) := by
  rw [Sink.isOverdue, called.live, called.settings, h.same called.isOpen]

/-- What a tick has come to that the loop has survived: one rollover if the live file was overdue,
and none otherwise. -/
theorem Timed.ticked {l : Loop} (h : Timed settings opened t)
    (called : Called t .tick (l.sink.tickPlan t.world) l.sink t.world t')
    (going : t'.phase.isOpen = true) :
    t'.rollovers = t.rollovers
        ++ (if settings.rollInterval < t.phase.sink.live.age t.world then [(.tick, t.world.now)]
          else []) ∧
      t'.phase.sink.live.age t'.world ≤ settings.rollInterval := by
  have hcount := (Sink.countP_performAll (l.sink.tickPlan t.world) l.sink t.world).2
    (called.calm going (by simp))
  rw [Sink.count_tickPlan, h.isOverdue called] at hcount
  obtain ⟨hnow, hrolled⟩ := called.rolledAt going
  rw [called.rollovers, LiveFile.age.eq_1 t'.phase.sink.live, hnow, hrolled, hcount]
  by_cases hlate : settings.rollInterval < t.phase.sink.live.age t.world
  · rw [decide_eq_true hlate, if_pos hlate]
    refine ⟨rfl, ?_⟩
    simp
  · rw [decide_eq_false hlate, if_neg hlate]
    exact ⟨rfl, Nat.le_of_not_lt hlate⟩

theorem Timed.tick {l : Loop} (h : Timed settings opened t) (due : l.nextTick ≤ t.world.now)
    (called : Called t .tick (l.sink.tickPlan t.world) l.sink t.world t')
    (next : t'.phase.isOpen = true →
      t'.phase.nextTick? = some (l.nextTick + l.sink.settings.tickInterval)) :
    Timed settings opened t' := by
  refine h.called called (fun going _ tick htick => ?_) fun earlier now after hsplit => ?_
  · have hage := (h.ticked called going).2
    have hperiod : l.sink.settings.tickInterval = settings.tickInterval := by
      rw [called.settings, h.same called.isOpen]
    rw [next going, Option.some.injEq, hperiod] at htick
    rw [LiveFile.age, (called.rolledAt going).1] at hage
    omega
  · have hcount := (Sink.countP_performAll (l.sink.tickPlan t.world) l.sink t.world).1
    rw [Sink.count_tickPlan, h.isOverdue called] at hcount
    rw [called.rollovers] at hsplit
    generalize (performAll (l.sink.tickPlan t.world) l.sink t.world).1.countP rolls = n
      at hcount hsplit
    obtain rfl | hrolled := Nat.eq_zero_or_pos n
    · rw [List.replicate_zero, List.append_nil] at hsplit
      exact h.apart earlier now after hsplit
    -- there was one rollover at this tick: it is the last one, or the one in question was before
    have hlate : settings.rollInterval < t.phase.sink.live.age t.world := by
      by_contra hearly
      rw [decide_eq_false hearly, Bool.toNat_false] at hcount
      omega
    rw [decide_eq_true hlate, Bool.toNat_true] at hcount
    obtain rfl : n = 1 := by omega
    rcases List.eq_nil_or_concat after with rfl | ⟨between, last, rfl⟩
    · obtain ⟨rfl, hlast⟩ := List.append_inj' hsplit rfl
      obtain ⟨-, rfl⟩ := Prod.mk.inj (List.cons.inj hlast).1
      rw [← h.rolledAt called.isOpen]
      rw [LiveFile.age] at hlate
      omega
    · rw [List.concat_eq_append, ← List.cons_append, ← List.append_assoc] at hsplit
      exact h.apart earlier now between (List.append_inj' hsplit rfl).1

theorem Timed.step (h : Timed settings opened t) (onlyByHand : t.OnlyByHand) (step : Step t t') :
    Timed settings opened t' := by
  cases goes_of_step step with
  | aside aside =>
    refine h.of_same ?_ (fun going => aside.isOpen ▸ going)
      (fun _ => ⟨aside.settings, aside.live, aside.now⟩) fun _ ticked => ⟨?_, aside.nextTick?⟩
    · rw [rollovers, aside.entries]
      rfl
    · rwa [aside.entries] at ticked
  | ended entries closed =>
    have absurd' : ∀ {P : Prop}, t'.phase.isOpen = true → P :=
      fun going => absurd (going.symm.trans closed) (by simp)
    refine h.of_same ?_ absurd' absurd' absurd'
    rw [rollovers, entries]
    rfl
  | begun s l before after sink next entries disk now =>
    have isOpen : t.phase.isOpen = true := by
      rw [before]
      rfl
    refine h.of_same ?_ (fun _ => isOpen) (fun _ => ?_) fun _ ticked => ?_
    · rw [rollovers, entries]
      rfl
    · rw [before, after]
      exact ⟨congrArg Sink.settings sink, congrArg Sink.live sink, Nat.le_of_eq now.symm⟩
    · -- before the loop has started there are no ticks
      obtain ⟨entry, hmem, hentry⟩ := ticked
      rw [entries] at hmem
      have hhand := onlyByHand isOpen (by rw [before]; rfl) entry hmem
      exact absurd (Entry.isTick_of_isByHand hhand) (by simp [hentry])
  | requested same =>
    subst same
    refine h.of_same ?_ (fun going => (request_isOpen _).symm.trans going) (fun _ => ?_)
      fun _ ticked => ⟨?_, request_nextTick? _⟩
    · rw [rollovers, request, List.filterMap_append]
      exact List.append_nil _
    · rw [request, request_sink]
      exact ⟨rfl, rfl, Nat.le_refl _⟩
    · exact exists_of_append ticked (by simp [Entry.isTick])
  | took cause plan s w plain called flag next =>
    exact h.other called (by rintro rfl; simp at plain) next
  | ticked l before due called next => exact h.tick due called next
  | flushed s w looping waiting called flag next => exact h.other called (by simp) next

/-! ### Whole runs -/

/-- What holds of the age of the live file, with an interval `r` and a period `p`, if it was opened
at some time. -/
structure AgeBounded (r p opened : Nat) (t : Chronicle) : Prop where
  age : t.phase.isOpen = true →
    lastRolled opened t.rollovers + t.phase.sink.live.age t.world = t.world.now
  /-- A tick rolls over once if the live file is too old, and otherwise not at all. -/
  tick : ∀ l, t.phase = .looping l → l.isRunning = true → l.nextTick ≤ t.world.now →
    (t.tick l).phase.isOpen = true →
      (t.tick l).rollovers = t.rollovers
          ++ (if r < t.phase.sink.live.age t.world then [(.tick, t.world.now)] else []) ∧
        (t.tick l).phase.sink.live.age (t.tick l).world ≤ r ∧
        ∃ entry ∈ (t.tick l).entries, entry.isTick = true
  /-- From the first tick on the live file is too old by one period at most. -/
  bound : t.phase.isOpen = true → (∃ entry ∈ t.entries, entry.isTick = true) →
    t.phase.sink.live.age t.world ≤ r + p
  /-- A rollover at a tick comes more than the interval after the one before, whatever its cause. -/
  apart : ∀ before now after, t.rollovers = before ++ (.tick, now) :: after →
    lastRolled opened before + r < now

theorem exists_isTick (t : Chronicle) (l : Loop) :
    ∃ entry ∈ (t.tick l).entries, entry.isTick = true := by
  have hdone : (performAll (l.sink.tickPlan t.world) l.sink t.world).1 ≠ [] := by
    rcases Sink.performAll_cases (l.sink.tickPlan t.world) l.sink t.world with
      ⟨-, hdone⟩ | ⟨before, failed, after, e, -, -, hdone⟩
    · rw [hdone, Sink.tickPlan]
      split <;> simp
    · rw [hdone]
      simp
  obtain ⟨done, hmem⟩ := List.exists_mem_of_ne_nil _ hdone
  exact ⟨.did .tick t.world.now done, List.mem_append_right _ (List.mem_map_of_mem hmem), rfl⟩

theorem Timed.bounded (h : Timed settings opened t) (punctual : Punctual t)
    (onlyByHand : t.OnlyByHand) :
    AgeBounded settings.rollInterval settings.tickInterval opened t where
  age := by
    intro isOpen
    have hpast := h.past isOpen
    rw [LiveFile.age, ← h.rolledAt isOpen]
    omega
  tick := by
    intro l before running _ going
    obtain ⟨hrollovers, hage⟩ := h.ticked (called_tick before running) going
    exact ⟨hrollovers, hage, exists_isTick t l⟩
  bound := by
    intro isOpen ticked
    cases hnext : t.phase.nextTick? with
    | none =>
      -- no loop has had the sink, so there has been no tick
      obtain ⟨entry, hmem, hentry⟩ := ticked
      have hnot := Entry.isTick_of_isByHand (onlyByHand isOpen hnext entry hmem)
      exact absurd (hentry.symm.trans hnot) (by simp)
    | some tick =>
      have hmost := h.next isOpen ticked tick hnext
      have hearly := punctual isOpen tick hnext
      rw [LiveFile.age]
      omega
  apart := h.apart

/-- The age of the live file is bounded along any run of a sink that has been started, if its loop
takes in each tick when it is due. -/
theorem age_bounded {destination : Option Destination} {s : Sink} {w₀ w : World}
    (start : Sink.start settings destination w₀ = (.ok s, w)) (timed : TimedRun (.start s w) t) :
    AgeBounded settings.rollInterval settings.tickInterval w₀.now t := by
  have both : Timed settings w₀.now t ∧ Punctual t := by
    induction timed with
    | refl =>
      obtain ⟨hnow, hsettings⟩ := Sink.start_now start
      have hrolled := (Sink.start_rolledAt start).1
      refine ⟨⟨fun _ => hsettings, fun _ => hrolled, fun _ => ?_, ?_, ?_⟩, ?_⟩
      · exact Nat.le_of_eq (hrolled.trans hnow.symm)
      · rintro - ⟨entry, hmem, -⟩
        exact absurd hmem List.not_mem_nil
      · intro before now after hsplit
        exact absurd hsplit (by simp [rollovers, Chronicle.start])
      · intro _ tick htick
        exact absurd htick (by simp [Chronicle.start, SinkPhase.nextTick?])
    | tail timed step ih =>
      exact ⟨ih.1.step (onlyByHand_of_run (TimedRun.run timed)) step.1, step.2⟩
  exact both.1.bounded both.2 (onlyByHand_of_run (TimedRun.run timed))

/-- An interval of five and a period of three. -/
def briefSettings : Settings :=
  { Settings.default with connection := "buf:dest".toList, rollInterval := 5, tickInterval := 3 }

def waited (t : Chronicle) (now : Nat) : Chronicle :=
  { t with world := { t.world with now } }

/-- A sink whose loop has been started at once. -/
def begunLoop (s : Sink) (w : World) : Chronicle :=
  { start s w with phase := .looping (Loop.start s 1 w).1, world := (Loop.start s 1 w).2 }

/-- The first tick comes when the live file is not old enough. -/
def tickedOnce (s : Sink) (w : World) : Chronicle :=
  ((begunLoop s w).waited 3).tick (Loop.start s 1 w).1

def loopAfter (t : Chronicle) (l : Loop) : Loop :=
  (l.tick t.world).1

/-- The second one rolls it over. -/
def tickedTwice (s : Sink) (w : World) : Chronicle :=
  ((tickedOnce s w).waited 6).tick
    (loopAfter ((begunLoop s w).waited 3) (Loop.start s 1 w).1)

def inTime (t : Chronicle) : Bool :=
  t.phase.nextTick?.all fun tick => t.world.now ≤ tick

theorem punctual_of_inTime (h : t.inTime = true) : Punctual t := by
  intro _ tick htick
  rw [inTime, htick] at h
  exact of_decide_eq_true h

/-- With an interval of five and ticks at three and six, the live file is rolled over at six. -/
theorem age_bounded_over_two_ticks :
    ∃ s w t, Sink.start briefSettings (some (.archive .unset)) (.fresh ['w']) = (.ok s, w) ∧
      TimedRun (start s w) t ∧ t.rollovers = [(.tick, 6)] ∧ t.world.now = 9 ∧
      t.phase.sink.live.age t.world ≤ 5 + 3 ∧ lastRolled 0 [] + 5 < 6 := by
  have hcheck : Sink.passes (Sink.start briefSettings (some (.archive .unset)) (.fresh ['w']))
      (fun s w =>
        (begunLoop s w).inTime && ((begunLoop s w).waited 3).inTime && (tickedOnce s w).inTime &&
          ((tickedOnce s w).waited 6).inTime && (tickedTwice s w).inTime &&
          ((tickedTwice s w).waited 9).inTime && (Loop.start s 1 w).1.isRunning &&
          (loopAfter ((begunLoop s w).waited 3) (Loop.start s 1 w).1).isRunning &&
          (tickedTwice s w).phase.isOpen &&
          decide ((begunLoop s w).world.now ≤ 3 ∧ (Loop.start s 1 w).1.nextTick ≤ 3 ∧
            (tickedOnce s w).world.now ≤ 6 ∧
            (loopAfter ((begunLoop s w).waited 3) (Loop.start s 1 w).1).nextTick ≤ 6 ∧
            (tickedTwice s w).world.now ≤ 9 ∧ (tickedTwice s w).rollovers = [(.tick, 6)]))
        = true := by decide +kernel
  obtain ⟨s, w, hstart, hcheck⟩ := Sink.exists_of_passes hcheck
  simp only [Bool.and_eq_true, decide_eq_true_eq] at hcheck
  obtain ⟨⟨⟨⟨⟨⟨⟨⟨⟨hbegun, hwaited⟩, honce⟩, hwaited'⟩, htwice⟩, hlast⟩, hrunning⟩, hrunning'⟩,
    hopen⟩, hnow, hdue, hnow', hdue', hnow'', hrollovers⟩ := hcheck
  have first : TimedRun (start s w) (tickedOnce s w) := by
    have begun := Relation.ReflTransGen.single (r := fun t t' => Step t t' ∧ Punctual t')
      ⟨Step.run (t := start s w) s 1 rfl, punctual_of_inTime hbegun⟩
    exact (begun.tail ⟨.wait 3 hnow, punctual_of_inTime hwaited⟩).tail
      ⟨.tick _ rfl hrunning hdue, punctual_of_inTime honce⟩
  have timed : TimedRun (start s w) ((tickedTwice s w).waited 9) :=
    ((first.tail ⟨.wait 6 hnow', punctual_of_inTime hwaited'⟩).tail
      ⟨.tick _ rfl hrunning' hdue', punctual_of_inTime htwice⟩).tail
      ⟨.wait 9 hnow'', punctual_of_inTime hlast⟩
  have bounded := age_bounded hstart timed
  exact ⟨s, w, _, hstart, timed, hrollovers, rfl, bounded.bound hopen (exists_isTick _ _),
    bounded.apart [] 6 [] hrollovers⟩

end Chronicle

end Outbox
