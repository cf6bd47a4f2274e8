import Mathlib.Algebra.GroupWithZero.Nat
import Mathlib.Data.List.Induction
import Outbox.FailureLog

/-!
# What a failure log tells

Of the failures that a log takes in, it tells the first one and each that comes at least an interval
after the last one told. It keeps three things for that: when a failure was last told, how many it
has kept back since, and how many there were. Each of the three is a function of the failures and of
what was told of them (`Reflects`), so that nothing is lost from the totals: the lines told, the
numbers of failures that they say were kept back, and those kept back now add up to all failures.
-/

set_option autoImplicit false

namespace Outbox

/-- The number in a field of an event, as it is written to the log. A number that is not written is
zero. -/
def Event.number (event : Event) (name : String) : Nat :=
  match event.fields.lookup name with
  | some (.number n) => n
  | _ => 0

theorem Event.numbers_failure (message : String) (path : Path) (cause : String)
    (total suppressed : Nat) :
    (failure message path cause total suppressed).number "total_failures" = total ∧
      (failure message path cause total suppressed).number "suppressed" = suppressed := by
  by_cases h : suppressed = 0 <;> simp [number, fields, h, List.lookup_cons]

namespace FailureLog

structure Failure where
  time : Nat
  message : String
  path : Path
  cause : String

/-- A failure, and the event if it was told. -/
abbrev Answer := Failure × Option Event

def take (log : FailureLog) (f : Failure) : FailureLog × Option Event :=
  log.record f.time f.message f.path f.cause

/-- A log that has taken in failures, and its answers in order. -/
def run (interval : Nat) (failures : List Failure) : FailureLog × List Answer :=
  failures.foldl
    (fun state f => ((state.1.take f).1, state.2 ++ [(f, (state.1.take f).2)]))
    (ofInterval interval, [])

/-- What is told of a failure that comes after others. -/
def line? (interval : Nat) (before : List Failure) (f : Failure) : Option Event :=
  ((run interval before).1.take f).2

def lines (answers : List Answer) : List Event :=
  answers.filterMap Prod.snd

/-- The times at which an event was told. -/
def times (answers : List Answer) : List Nat :=
  (answers.filter fun a => a.2.isSome).map fun a => a.1.time

/-- The number of failures kept back since the last one told. -/
def keptBack (answers : List Answer) : Nat :=
  (answers.reverse.takeWhile fun a => a.2.isNone).length

variable {interval : Nat} {failures : List Failure} {f : Failure}

theorem run_concat (interval : Nat) (failures : List Failure) (f : Failure) :
    run interval (failures ++ [f])
      = (((run interval failures).1.take f).1,
          (run interval failures).2 ++ [(f, line? interval failures f)]) := by
  rw [run, List.foldl_append]
  rfl

section Answers

variable {answers : List Answer} {event : Event}

theorem lines_told : lines (answers ++ [(f, some event)]) = lines answers ++ [event] := by
  simp [lines]

theorem lines_keptBack : lines (answers ++ [(f, none)]) = lines answers := by
  simp [lines]

theorem times_told : times (answers ++ [(f, some event)]) = times answers ++ [f.time] := by
  simp [times]

theorem times_keptBack : times (answers ++ [(f, none)]) = times answers := by
  simp [times]

theorem keptBack_told : keptBack (answers ++ [(f, some event)]) = 0 := by
  simp [keptBack]

theorem keptBack_keptBack : keptBack (answers ++ [(f, none)]) = keptBack answers + 1 := by
  simp [keptBack]

end Answers

/-- What a log has kept of the failures that it has taken in. -/
structure Reflects (interval : Nat) (failures : List Failure) : Prop where
  unchanged : (run interval failures).1.interval = interval
  total : (run interval failures).1.total = failures.length
  suppressed : (run interval failures).1.suppressed = keptBack (run interval failures).2
  lastTold : (run interval failures).1.lastTold = (times (run interval failures).2).getLast?

theorem take_cases (log : FailureLog) (f : Failure) :
    (log.isDue f.time = true ∧ log.take f
        = ({ log with lastTold := some f.time, suppressed := 0, total := log.total + 1 },
            some (.failure f.message f.path f.cause (log.total + 1) log.suppressed))) ∨
      (log.isDue f.time = false ∧ log.take f
        = ({ log with suppressed := log.suppressed + 1, total := log.total + 1 }, none)) := by
  rw [take, record]
  cases hdue : log.isDue f.time
  · exact .inr ⟨rfl, rfl⟩
  · exact .inl ⟨rfl, rfl⟩

theorem reflects (interval : Nat) (failures : List Failure) : Reflects interval failures := by
  induction failures using List.reverseRecOn with
  | nil => exact ⟨rfl, rfl, rfl, rfl⟩
  | append_singleton failures f ih =>
    rcases take_cases (run interval failures).1 f with ⟨-, htake⟩ | ⟨-, htake⟩
    · constructor <;> rw [run_concat, line?, htake]
      · exact ih.unchanged
      · simp [ih.total]
      · rw [keptBack_told]
      · rw [times_told, List.getLast?_concat]
    · constructor <;> rw [run_concat, line?, htake]
      · exact ih.unchanged
      · simp [ih.total]
      · rw [keptBack_keptBack, ih.suppressed]
      · rw [times_keptBack, ih.lastTold]

/-- What is told of a failure says how many there were, this one included, and how many were kept
back since the last one told. -/
theorem line?_eq (interval : Nat) (failures : List Failure) (f : Failure) :
    line? interval failures f
      = if (run interval failures).1.isDue f.time then
          some (.failure f.message f.path f.cause (failures.length + 1)
            (keptBack (run interval failures).2))
        else none := by
  have h := reflects interval failures
  rcases take_cases (run interval failures).1 f with ⟨hdue, htake⟩ | ⟨hdue, htake⟩
  · rw [line?, htake, if_pos hdue, h.total, h.suppressed]
  · rw [line?, htake, if_neg (by simp [hdue])]

/-! ### Times in order -/

def InOrder (failures : List Failure) : Prop :=
  failures.Pairwise fun f g => f.time ≤ g.time

theorem times_sublist (interval : Nat) (failures : List Failure) :
    (times (run interval failures).2).Sublist (failures.map Failure.time) := by
  induction failures using List.reverseRecOn with
  | nil => exact .slnil
  | append_singleton failures f ih =>
    rw [run_concat, List.map_append]
    cases line? interval failures f with
    | none =>
      rw [times_keptBack]
      exact ih.trans (List.sublist_append_left _ _)
    | some event =>
      rw [times_told]
      exact ih.append (List.Sublist.refl _)

theorem le_getLast (ordered : InOrder failures) {last : Nat}
    (hlast : (times (run interval failures).2).getLast? = some last) :
    ∀ time ∈ times (run interval failures).2, time ≤ last := by
  intro time hmem
  have hsorted : (times (run interval failures).2).Pairwise (· ≤ ·) :=
    (List.pairwise_map.mpr ordered).sublist (times_sublist interval failures)
  obtain ⟨front, hfront⟩ := List.getLast?_eq_some_iff.mp hlast
  rw [hfront] at hmem hsorted
  rcases List.mem_append.mp hmem with hmem | hmem
  · exact (List.pairwise_append.mp hsorted).2.2 time hmem last (by simp)
  · exact Nat.le_of_eq (List.mem_singleton.mp hmem)

theorem le_of_mem_times (interval : Nat) (ordered : InOrder (failures ++ [f])) :
    ∀ time ∈ times (run interval failures).2, time ≤ f.time := by
  intro time hmem
  obtain ⟨g, hg, rfl⟩ := List.mem_map.mp ((times_sublist interval failures).subset hmem)
  exact (List.pairwise_append.mp ordered).2.2 g hg f (by simp)

/-- A failure is due if nothing was told less than an interval before it. -/
theorem isDue_iff (interval : Nat) (ordered : InOrder (failures ++ [f])) :
    (run interval failures).1.isDue f.time = true ↔
      ∀ time ∈ times (run interval failures).2, time + interval ≤ f.time := by
  have h := reflects interval failures
  have hle := le_of_mem_times interval ordered
  rw [isDue, h.lastTold, h.unchanged]
  cases hlast : (times (run interval failures).2).getLast? with
  | none =>
    rw [List.getLast?_eq_none_iff] at hlast
    simp [hlast]
  | some last =>
    -- the log looks at the last event told only, and no other one was told later
    have hmem := List.mem_of_getLast? hlast
    have hmost := le_getLast (List.pairwise_append.mp ordered).1 hlast
    simp only [decide_eq_true_eq]
    constructor
    · intro hdue time htime
      have := hmost time htime
      have := hle last hmem
      omega
    · intro hall
      have := hall last hmem
      omega

/-! ### What is told -/

/-- What holds of what a log tells of failures, after each of them. -/
structure Faithful (interval : Nat) (failures : List Failure) : Prop where
  total : ∀ before, before <+: failures → (run interval before).1.total = before.length
  /-- A failure is kept back exactly if an event was told less than an interval before it. -/
  keeps_back_iff : ∀ before f rest, failures = before ++ f :: rest →
    (line? interval before f = none ↔
      ∃ time ∈ times (run interval before).2, f.time < time + interval)
  /-- An event that is told is about its failure, and says how many there were and how many were
  kept back since the last one told. -/
  tells : ∀ before f rest event, failures = before ++ f :: rest →
    line? interval before f = some event →
      event = .failure f.message f.path f.cause (before.length + 1)
        (keptBack (run interval before).2) ∧
      event.number "total_failures" = before.length + 1 ∧
      event.number "suppressed" = keptBack (run interval before).2
  apart : (times (run interval failures).2).Pairwise fun earlier later =>
    earlier + interval ≤ later
  /-- Each failure is a line, or is counted in one, or is kept back still. -/
  balance : ∀ before, before <+: failures →
    (lines (run interval before).2).length
        + ((lines (run interval before).2).map (Event.number · "suppressed")).sum
        + (run interval before).1.suppressed
      = (run interval before).1.total

theorem apart_of_inOrder (ordered : InOrder failures) :
    (times (run interval failures).2).Pairwise fun earlier later => earlier + interval ≤ later := by
  induction failures using List.reverseRecOn with
  | nil => exact .nil
  | append_singleton failures f ih =>
    have hbefore := ih (List.pairwise_append.mp ordered).1
    rw [run_concat, line?_eq]
    split
    · next hdue =>
      rw [times_told, List.pairwise_append]
      refine ⟨hbefore, List.pairwise_singleton _ _, fun earlier hmem later hlater => ?_⟩
      rw [List.mem_singleton.mp hlater]
      exact (isDue_iff interval ordered).mp hdue earlier hmem
    · rw [times_keptBack]
      exact hbefore

theorem balanced (interval : Nat) (failures : List Failure) :
    (lines (run interval failures).2).length
        + ((lines (run interval failures).2).map (Event.number · "suppressed")).sum
        + keptBack (run interval failures).2
      = failures.length := by
  induction failures using List.reverseRecOn with
  | nil => rfl
  | append_singleton failures f ih =>
    rw [run_concat, line?_eq, List.length_append]
    split
    · rw [lines_told, keptBack_told, List.length_append, List.map_append, List.sum_append]
      simp only [List.map_singleton, List.sum_singleton, (Event.numbers_failure _ _ _ _ _).2,
        List.length_singleton]
      omega
    · rw [lines_keptBack, keptBack_keptBack]
      simp only [List.length_singleton]
      omega

/-- Whatever the interval, a log is faithful to failures that come in the order of time. -/
theorem totals_kept (ordered : InOrder failures) : Faithful interval failures where
  total := fun before _ => (reflects interval before).total
  keeps_back_iff := by
    rintro before f rest rfl
    rw [← List.singleton_append, ← List.append_assoc] at ordered
    have hdue := isDue_iff interval (List.pairwise_append.mp ordered).1
    rw [line?_eq]
    cases hresult : (run interval before).1.isDue f.time with
    | true =>
      have hfar := hdue.mp hresult
      refine ⟨fun hnone => absurd hnone (by simp), fun ⟨time, hmem, hnear⟩ => ?_⟩
      have := hfar time hmem
      omega
    | false =>
      rw [hresult] at hdue
      simp only [Bool.false_eq_true, false_iff, not_forall] at hdue
      obtain ⟨time, hmem, hnear⟩ := hdue
      exact ⟨fun _ => ⟨time, hmem, Nat.lt_of_not_le hnear⟩, fun _ => by simp⟩
  tells := by
    rintro before f rest event rfl htold
    rw [line?_eq] at htold
    split at htold
    · obtain rfl := Option.some.inj htold
      exact ⟨rfl, Event.numbers_failure _ _ _ _ _⟩
    · exact absurd htold (by simp)
  apart := apart_of_inOrder ordered
  balance := by
    intro before _
    rw [(reflects interval before).suppressed, (reflects interval before).total]
    exact balanced interval before

/-- Failures at 0, 3, 9, 10 and 25: at an interval of 10 the first, the fourth and the last are told,
and the fourth says that two were kept back. -/
theorem totals_kept_over_outage :
    ∃ failures, failures.map Failure.time = [0, 3, 9, 10, 25] ∧ Faithful 10 failures ∧
      times (run 10 failures).2 = [0, 10, 25] ∧
      (lines (run 10 failures).2).map (Event.number · "suppressed") = [0, 2, 0] := by
  let failure (time : Nat) : Failure :=
    { time, message := "upload failed", path := ⟨['a']⟩, cause := "timeout" }
  refine ⟨[0, 3, 9, 10, 25].map failure, rfl, totals_kept ?_, ?_, ?_⟩
  · rw [InOrder]
    decide
  · decide
  · decide

end FailureLog

end Outbox
