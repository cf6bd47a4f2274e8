import Outbox.Proofs.Sink.Chronicle
import Outbox.Proofs.Sink.Restart

/-!
# Flush requests

A request sets a flag, and while the flag is set further requests are dropped. Nothing is lost by
that. The accepted requests are the flushes that have begun and the one that waits (`Reckoned`), and
a request that is dropped is dropped because another one waits, which is taken only later. So behind
any request, accepted or not, a flush waits or has been performed. A flush that is performed leaves
an empty live file, which from then on holds what was written since (`Holding`), so that nothing
written before the request is in it (`Coalesced`).
-/

set_option autoImplicit false

namespace Outbox

open Sink (Operation Done performAll rolls)

/-! ### What the live file holds -/

namespace Sink

variable {s : Sink} {w : World} {bytes : Bytes}

/-- What the live file holds after an operation. -/
def hold (bytes : Bytes) : Done → Bytes
  | (.rollOver, .ok ()) => []
  | (.append record, .ok ()) => bytes ++ record
  | _ => bytes

/-- The live file, while it is open, is reached by its path and holds some bytes. -/
def Holds (s : Sink) (w : World) (bytes : Bytes) : Prop :=
  ∀ handle, s.live.handle = some handle →
    s.live.Seated w.disk handle ∧ handle.bytes w.disk = bytes

theorem Holds.of_live {s' : Sink} {w' : World} (h : s.Holds w bytes) (live : s'.live = s.live)
    (rests : s.live.Rests w.disk w'.disk) : s'.Holds w' bytes := by
  intro handle opened
  rw [live] at opened ⊢
  obtain ⟨seated, hbytes⟩ := h handle opened
  obtain ⟨seated', hsame⟩ := rests seated
  exact ⟨seated', hsame.trans hbytes⟩

theorem Holds.append (h : s.Holds w bytes) (record : Bytes) :
    (s.append record w).2.1.Holds (s.append record w).2.2
        (hold bytes (.append record, (s.append record w).1)) ∧
      ((s.append record w).1 = .ok () →
        (s.append record w).2.1.live.handle.isSome = true) := by
  rw [Sink.append]
  rcases happend : s.live.append record w with ⟨e | _, live, w'⟩
  · obtain ⟨rfl, faults, hdisk⟩ := LiveFile.append_error happend
    refine ⟨h.of_live rfl ?_, fun hok => absurd hok (by simp)⟩
    show s.live.Rests w.disk w'.disk
    rw [hdisk]
    exact LiveFile.rests_faults _ _ faults
  · obtain ⟨handle, _, hhandle, -, -, -, hsame⟩ := LiveFile.append_ok happend
    have hopened : live.handle = some handle := hsame.trans hhandle
    refine ⟨fun handle' opened => ?_, fun _ => by simp [hopened]⟩
    obtain rfl : handle = handle' := Option.some.inj (hopened.symm.trans opened)
    obtain ⟨seated, hbytes⟩ := h handle hhandle
    obtain ⟨seated', hbytes'⟩ := seated.append happend
    exact ⟨seated', by rw [hbytes', hbytes]; rfl⟩

theorem Holds.rollOver (h : s.Holds w bytes) :
    (s.rollOver w).2.1.Holds (s.rollOver w).2.2
        (hold bytes (.rollOver, (s.rollOver w).1.map fun _ => ())) ∧
      ((s.rollOver w).1.map (fun _ => ()) = .ok () →
        (s.rollOver w).2.1.live.handle.isSome = true) := by
  rcases s.rollOver_cases w with
    ⟨e, live, w', hlive, hresult⟩ | ⟨path, live, w', hlive, hresult⟩
  · rw [hresult]
    refine ⟨?_, fun hok => absurd hok (by simp [Except.map])⟩
    cases LiveFile.rolls (fun opened => (h _ opened).1) hlive with
    | kept faults unmoved hcases hdisk =>
      rcases hcases with rfl | rfl
      · apply h.of_live rfl
        show s.live.Rests w.disk w'.disk
        rw [hdisk]
        exact LiveFile.rests_faults _ _ faults
      · intro handle opened
        exact absurd opened (by simp)
    | shut target w₁ moved =>
      intro handle opened
      exact absurd opened (by simp)
  · have hboth : (if s.atCapacity then { s with live, fileSize := 0 }.enqueue path
        else { s with live, fileSize := 0 }.dispatch path).live = live := by
      split <;> rfl
    rw [hresult]
    cases LiveFile.rolls (fun opened => (h _ opened).1) hlive with
    | rolled w₁ handle moved seated empty =>
      refine ⟨fun handle' opened => ?_, fun _ => ?_⟩
      · dsimp only at opened ⊢
        rw [hboth] at opened ⊢
        obtain rfl : handle = handle' := Option.some.inj (seated.opened.symm.trans opened)
        exact ⟨seated, empty⟩
      · dsimp only
        rw [hboth, seated.opened]
        rfl

theorem dispatchNext_live (s : Sink) : s.dispatchNext.live = s.live := by
  rw [Sink.dispatchNext]
  split
  · rfl
  · split <;> rfl

/-- What an operation does to what the live file holds. One that succeeds does not close it. -/
theorem Holds.perform (h : s.Holds w bytes) (operation : Operation) :
    (operation.perform s w).2.1.Holds (operation.perform s w).2.2
        (hold bytes (operation, (operation.perform s w).1)) ∧
      (s.live.handle.isSome = true ∨ operation = .rollOver →
        (operation.perform s w).1 = .ok () →
        (operation.perform s w).2.1.live.handle.isSome = true) := by
  cases operation with
  | append record =>
    obtain ⟨holds, opened⟩ := h.append record
    exact ⟨holds, fun _ => opened⟩
  | rollOver =>
    obtain ⟨holds, opened⟩ := h.rollOver
    exact ⟨holds, fun _ => opened⟩
  | dispatchNext =>
    have hlive := dispatchNext_live s
    refine ⟨h.of_live hlive fun seated => ⟨seated, rfl⟩, fun hopened _ => ?_⟩
    rw [Operation.perform, hlive]
    exact hopened.resolve_right (by simp)

theorem Holds.performAll (h : s.Holds w bytes) (plan : List Operation) :
    (performAll plan s w).2.2.1.Holds (performAll plan s w).2.2.2
      ((performAll plan s w).1.foldl hold bytes) := by
  have along := @performAll_along w s fun done s' w' => s'.Holds w' (done.foldl hold bytes)
  refine along (fun done operation s' w' h' => ?_) [] plan h
  rw [List.foldl_append]
  exact (h'.perform operation).1

theorem Holds.opened_performAll (h : s.Holds w bytes) (opened : s.live.handle.isSome = true)
    {plan : List Operation} (hok : (Sink.performAll plan s w).2.1 = .ok ()) :
    (Sink.performAll plan s w).2.2.1.live.handle.isSome = true := by
  induction plan generalizing s w bytes with
  | nil => exact opened
  | cons operation rest ih =>
    obtain ⟨holds, going⟩ := h.perform operation
    rw [Sink.performAll] at hok ⊢
    generalize operation.perform s w = result at holds going hok ⊢
    obtain ⟨e | _, s', w'⟩ := result
    · exact absurd hok (by simp)
    · exact ih holds (going (.inl opened) rfl) hok

end Sink

/-! ### Histories -/

namespace Entry

def isAccepted : Entry → Bool
  | .requested answer => answer
  | _ => false

def isFlush : Entry → Bool
  | .did .flush _ _ => true
  | _ => false

/-- Whether a flush has rolled the live file over. -/
def isFlushed : Entry → Bool
  | .did .flush _ done => rolls done
  | _ => false

/-- The record that has been written. -/
def written? : Entry → Option Bytes
  | .did _ _ (.append record, .ok ()) => some record
  | _ => none

def hold (bytes : Bytes) : Entry → Bytes
  | .did _ _ done => Sink.hold bytes done
  | .requested _ => bytes

def rolls : Entry → Bool
  | .did _ _ done => Sink.rolls done
  | .requested _ => false

theorem hold_cases (bytes : Bytes) (entry : Entry) :
    (entry.rolls = true ∧ entry.hold bytes = []) ∨
      (entry.rolls = false ∧ ∃ record, entry.written? = some record ∧
        entry.hold bytes = bytes ++ record) ∨
      (entry.rolls = false ∧ entry.written? = none ∧ entry.hold bytes = bytes) := by
  rcases entry with answer | ⟨cause, now, operation, result⟩
  · exact .inr (.inr ⟨rfl, rfl, rfl⟩)
  · cases operation <;> cases result
    · exact .inr (.inr ⟨rfl, rfl, rfl⟩)
    · exact .inr (.inl ⟨rfl, _, rfl, rfl⟩)
    · exact .inr (.inr ⟨rfl, rfl, rfl⟩)
    · exact .inl ⟨rfl, rfl⟩
    · exact .inr (.inr ⟨rfl, rfl, rfl⟩)
    · exact .inr (.inr ⟨rfl, rfl, rfl⟩)

/-- A live file holds what has been written since some point, behind what it held at first unless
it has been rolled over. -/
theorem foldl_hold (found : Bytes) (after : List Entry) :
    ∃ recent, recent <:+ after.filterMap written? ∧
      after.foldl hold found = (if after.any rolls then [] else found) ++ recent.flatten := by
  induction after using List.reverseRecOn with
  | nil => exact ⟨[], List.suffix_refl _, by simp⟩
  | append_singleton after entry ih =>
    obtain ⟨recent, ⟨older, hsuffix⟩, hhold⟩ := ih
    rw [List.foldl_concat, List.filterMap_append, List.any_append]
    rcases hold_cases (after.foldl hold found) entry with
      ⟨hrolls, hentry⟩ | ⟨hrolls, record, hwritten, hentry⟩ | ⟨hrolls, hwritten, hentry⟩
    · exact ⟨[], List.nil_suffix, by simp [hrolls, hentry]⟩
    · refine ⟨recent ++ [record], ⟨older, ?_⟩, ?_⟩
      · rw [← List.append_assoc, hsuffix]
        simp [hwritten]
      · rw [hentry, hhold]
        simp [hrolls]
    · refine ⟨recent, ⟨older, ?_⟩, ?_⟩
      · rw [hsuffix]
        simp [hwritten]
      · rw [hentry, hhold]
        simp [hrolls]

theorem rolls_of_isFlushed {entry : Entry} (h : entry.isFlushed = true) : entry.rolls = true := by
  rcases entry with answer | ⟨cause, now, done⟩
  · exact absurd h (by simp [isFlushed])
  · cases cause with
    | flush => exact h
    | _ => exact absurd h (by simp [isFlushed])

theorem isFlushed_of_isByHand {entry : Entry} (h : entry.isByHand = true) :
    entry.isFlushed = false := by
  rcases entry with answer | ⟨cause, now, done⟩
  · rfl
  · obtain rfl : cause = .hand := of_decide_eq_true h
    rfl

theorem countP_did {cause : Cause} (other : cause ≠ .flush) (now : Nat) (done : List Done) :
    (done.map (Entry.did cause now)).countP isAccepted = 0 ∧
      (done.map (Entry.did cause now)).countP isFlush = 0 ∧
      (done.map (Entry.did cause now)).countP isFlushed = 0 := by
  simp only [List.countP_eq_zero, List.forall_mem_map]
  refine ⟨fun _ _ => by simp [isAccepted], fun _ _ => ?_, fun _ _ => ?_⟩ <;>
  · cases cause <;> simp_all [isFlush, isFlushed]

end Entry

namespace Chronicle

def accepted (t : Chronicle) : Nat :=
  t.entries.countP Entry.isAccepted

def begun (t : Chronicle) : Nat :=
  t.entries.countP Entry.isFlush

def flushed (t : Chronicle) : Nat :=
  t.entries.countP Entry.isFlushed

variable {t t' : Chronicle}

/-! ### Requests and flushes -/

/-- The requests that were accepted are the flushes that have begun and the one that waits; and
behind every request a flush has been performed or waits. -/
structure Reckoned (t : Chronicle) : Prop where
  begun : t.begun ≤ t.accepted ∧ t.accepted ≤ t.begun + 1
  performed : t.phase.isOpen = true → t.flushed = t.begun ∧
    t.flushed + t.phase.sink.flushWaiting.toNat = t.accepted
  behind : t.phase.isOpen = true → ∀ before answer after,
    t.entries = before ++ .requested answer :: after →
      t.phase.sink.flushWaiting = true ∨ ∃ entry ∈ after, entry.isFlushed = true

theorem Reckoned.of_same (h : Reckoned t) (entries : t'.entries = t.entries)
    (flag : t'.phase.isOpen = true → t.phase.isOpen = true ∧
      t'.phase.sink.flushWaiting = t.phase.sink.flushWaiting) : Reckoned t' := by
  have hbegun := h.begun
  refine ⟨?_, fun isOpen => ?_, fun isOpen => ?_⟩
  · rw [Chronicle.begun, accepted, entries]
    exact hbegun
  · rw [(flag isOpen).2, Chronicle.begun, flushed, accepted, entries]
    exact h.performed (flag isOpen).1
  · rw [(flag isOpen).2, entries]
    exact h.behind (flag isOpen).1

theorem counts_request (t : Chronicle) :
    t.request.accepted = t.accepted + (t.phase.isOpen && !t.phase.sink.flushWaiting).toNat ∧
      t.request.begun = t.begun ∧ t.request.flushed = t.flushed := by
  have hanswer := request_answer t.phase
  refine ⟨?_, ?_, ?_⟩
  · rw [accepted, request, List.countP_append, hanswer, accepted]
    cases t.phase.isOpen && !t.phase.sink.flushWaiting <;> rfl
  · rw [Chronicle.begun, request, List.countP_append]
    rfl
  · rw [flushed, request, List.countP_append]
    rfl

theorem Reckoned.request (h : Reckoned t) : Reckoned t.request := by
  obtain ⟨haccepted, hbegun, hflushed⟩ := counts_request t
  have hopen : t.request.phase.isOpen = t.phase.isOpen := request_isOpen t.phase
  have hflag : t.request.phase.sink.flushWaiting
      = (t.phase.sink.flushWaiting || t.phase.isOpen) := by
    rw [Chronicle.request, request_sink]
  obtain ⟨hleast, hmost⟩ := h.begun
  have hperformed := h.performed
  -- accepted or dropped, the request leaves the flag set, which covers all requests before it too
  refine ⟨?_, fun isOpen => ?_, fun isOpen _ _ _ _ => .inl ?_⟩
  · rw [haccepted, hbegun]
    cases isOpen : t.phase.isOpen with
    | false => exact ⟨hleast, hmost⟩
    | true =>
      obtain ⟨hsame, hcount⟩ := hperformed isOpen
      cases hwaiting : t.phase.sink.flushWaiting with
      | true => exact ⟨hleast, hmost⟩
      | false =>
        rw [hwaiting] at hcount
        simp only [Bool.toNat_false, Bool.not_false, Bool.and_true, Bool.toNat_true] at hcount ⊢
        omega
  · rw [hopen] at isOpen
    obtain ⟨hsame, hcount⟩ := hperformed isOpen
    rw [haccepted, hbegun, hflushed, hflag, isOpen, ← hcount]
    refine ⟨hsame, ?_⟩
    cases t.phase.sink.flushWaiting <;> rfl
  · rw [hflag, ← hopen, isOpen, Bool.or_true]

theorem Reckoned.called {cause : Cause} {plan : List Operation} {s : Sink} {w : World}
    (h : Reckoned t) (called : Called t cause plan s w t') (other : cause ≠ .flush)
    (flag : s.flushWaiting = t.phase.sink.flushWaiting) : Reckoned t' := by
  obtain ⟨haccepted, hbegun, hflushed⟩ := Entry.countP_did other w.now (performAll plan s w).1
  have hkept : t'.phase.isOpen = true →
      t'.phase.sink.flushWaiting = t.phase.sink.flushWaiting :=
    fun isOpen => (called.clock isOpen).flushWaiting.trans flag
  refine ⟨?_, fun isOpen => ?_, fun isOpen before answer after hsplit => ?_⟩
  · rw [Chronicle.begun, accepted, called.entries, List.countP_append, List.countP_append,
      haccepted, hbegun]
    exact h.begun
  · rw [hkept isOpen, Chronicle.begun, flushed, accepted, called.entries, List.countP_append,
      List.countP_append, List.countP_append, haccepted, hbegun, hflushed]
    exact h.performed called.isOpen
  · rw [called.entries] at hsplit
    obtain ⟨between, rfl, hbefore⟩ := split_of_append hsplit (by simp)
    rw [hkept isOpen]
    refine (h.behind called.isOpen _ _ _ hbefore).imp_right ?_
    rintro ⟨entry, hmem, hentry⟩
    exact ⟨entry, List.mem_append_left _ hmem, hentry⟩

theorem Reckoned.flush {s : Sink} {w : World} (h : Reckoned t)
    (waiting : t.phase.sink.flushWaiting = true) (called : Called t .flush [.rollOver] s w t')
    (flag : s.flushWaiting = false) : Reckoned t' := by
  obtain ⟨hsame, hcount⟩ := h.performed called.isOpen
  rw [waiting] at hcount
  -- the loop goes on only if the rollover has succeeded, and so the flush is counted as performed
  obtain ⟨result, hdone, hresult⟩ : ∃ result,
      (performAll [.rollOver] s w).1 = [(.rollOver, result)] ∧
        ((performAll [.rollOver] s w).2.1 = .ok () → result = .ok ()) := by
    rw [performAll]
    rcases Operation.perform .rollOver s w with ⟨e | _, s', w'⟩
    · exact ⟨.error e, rfl, id⟩
    · exact ⟨.ok (), rfl, fun _ => rfl⟩
  have hentries := called.entries
  rw [hdone] at hentries
  have haccepted : t'.accepted = t.accepted := by
    rw [accepted, hentries, List.countP_append]
    rfl
  have hbegun : t'.begun = t.begun + 1 := by
    rw [Chronicle.begun, hentries, List.countP_append]
    rfl
  have hperformed : t'.phase.isOpen = true → Entry.isFlushed (.did .flush w.now (.rollOver, result))
      = true := by
    intro isOpen
    rw [hresult (called.calm isOpen (by simp))]
    rfl
  refine ⟨?_, fun isOpen => ?_, fun isOpen before answer after hsplit => ?_⟩
  · rw [haccepted, hbegun]
    simp only [Bool.toNat_true] at hcount
    omega
  · have hflushed : t'.flushed = t.flushed + 1 := by
      rw [flushed, hentries, List.countP_append, List.map_singleton, List.countP_singleton,
        if_pos (hperformed isOpen)]
      rfl
    have hflag := (called.clock isOpen).flushWaiting.trans flag
    rw [haccepted, hbegun, hflushed, hflag, hsame]
    rw [hsame] at hcount
    exact ⟨rfl, hcount⟩
  · rw [hentries] at hsplit
    obtain ⟨between, rfl, -⟩ := split_of_append hsplit (by simp)
    exact .inr ⟨_, List.mem_append_right _ (List.mem_singleton.mpr rfl), hperformed isOpen⟩

theorem Reckoned.step (h : Reckoned t) (step : Step t t') : Reckoned t' := by
  cases goes_of_step step with
  | aside aside =>
    exact h.of_same aside.entries fun isOpen => ⟨aside.isOpen ▸ isOpen, aside.flushWaiting⟩
  | ended entries closed =>
    exact h.of_same entries fun isOpen => absurd (isOpen.symm.trans closed) (by simp)
  | begun s l before after sink next entries disk now =>
    refine h.of_same entries fun _ => ?_
    rw [before, after]
    exact ⟨rfl, congrArg Sink.flushWaiting sink⟩
  | requested same => exact same ▸ h.request
  | took cause plan s w plain called flag next =>
    exact h.called called (by rintro rfl; simp at plain) flag
  | ticked l before due called next =>
    exact h.called called (by simp) (by rw [before]; rfl)
  | flushed s w looping waiting called flag next => exact h.flush waiting called flag

/-! ### What flushes leave -/

/-- The live file holds what the entries say, and is open once a flush has been performed. -/
structure Holding (found : Bytes) (t : Chronicle) : Prop where
  holds : t.phase.isOpen = true →
    t.phase.sink.Holds t.world (t.entries.foldl Entry.hold found)
  opened : t.phase.isOpen = true → (∃ entry ∈ t.entries, entry.isFlushed = true) →
    t.phase.sink.live.handle.isSome = true

variable {found : Bytes}

theorem Holding.of_live (h : Holding found t) (isOpen : t.phase.isOpen = true)
    (live : t'.phase.sink.live = t.phase.sink.live)
    (rests : t.phase.sink.live.Rests t.world.disk t'.world.disk)
    (hold : t'.entries.foldl Entry.hold found = t.entries.foldl Entry.hold found)
    (flushed : (∃ entry ∈ t'.entries, entry.isFlushed = true) →
      ∃ entry ∈ t.entries, entry.isFlushed = true) : Holding found t' where
  holds := fun _ => by
    rw [hold]
    exact (h.holds isOpen).of_live live rests
  opened := fun _ hflushed => by
    rw [live]
    exact h.opened isOpen (flushed hflushed)

theorem holding_of_closed (closed : t.phase.isOpen = false) : Holding found t where
  holds := fun isOpen => absurd (isOpen.symm.trans closed) (by simp)
  opened := fun isOpen => absurd (isOpen.symm.trans closed) (by simp)

theorem Called.holds {cause : Cause} {plan : List Operation} {s : Sink} {w : World}
    (called : Called t cause plan s w t') (h : Holding found t) :
    s.Holds w (t.entries.foldl Entry.hold found) :=
  (h.holds called.isOpen).of_live called.live fun seated => by
    rw [called.disk]
    exact ⟨seated, rfl⟩

theorem Called.held {cause : Cause} {plan : List Operation} {s : Sink} {w : World}
    (called : Called t cause plan s w t') (h : Holding found t) (isOpen : t'.phase.isOpen = true) :
    t'.phase.sink.Holds t'.world (t'.entries.foldl Entry.hold found) := by
  have hafter := (called.holds h).performAll plan
  rw [← called.sink isOpen, ← called.world isOpen] at hafter
  rw [called.entries, List.foldl_append, List.foldl_map]
  exact hafter

/-- A call of the loop that is no flush leaves the live file open. -/
theorem Holding.called {cause : Cause} {plan : List Operation} {s : Sink} {w : World}
    (h : Holding found t) (called : Called t cause plan s w t') (other : cause ≠ .flush)
    (still : cause = .hand → ∀ entry ∈ t.entries, entry.isFlushed = false) :
    Holding found t' := by
  refine ⟨called.held h, fun isOpen hflushed => ?_⟩
  have hcount := (Entry.countP_did other w.now (performAll plan s w).1).2.2
  rw [called.entries] at hflushed
  obtain ⟨entry, hbefore, hentry⟩ := exists_of_append hflushed fun entry hnew =>
    Bool.eq_false_iff.mpr (List.countP_eq_zero.mp hcount entry hnew)
  have hopened : s.live.handle.isSome = true := by
    rw [called.live]
    exact h.opened called.isOpen ⟨entry, hbefore, hentry⟩
  -- by hand nothing has been flushed yet, and the loop does not go on after a failure
  have hcause : cause ≠ .hand := by
    intro hhand
    exact absurd ((still hhand entry hbefore).symm.trans hentry) (by simp)
  rw [called.sink isOpen]
  exact (called.holds h).opened_performAll hopened (called.calm isOpen hcause)

theorem Holding.flush {s : Sink} {w : World} (h : Holding found t)
    (called : Called t .flush [.rollOver] s w t') : Holding found t' := by
  refine ⟨called.held h, fun isOpen _ => ?_⟩
  have hresult := called.calm isOpen (by simp)
  obtain ⟨-, opened⟩ := (called.holds h).perform .rollOver
  rw [← Sink.performAll_single] at opened
  rw [called.sink isOpen]
  exact opened (.inr rfl) hresult

theorem Holding.step (h : Holding found t) (onlyByHand : t.OnlyByHand) (step : Step t t') :
    Holding found t' := by
  have rests : ∀ {file : LiveFile} {d d' : Disk}, d' = d → file.Rests d d' := by
    rintro file d _ rfl handle seated
    exact ⟨seated, rfl⟩
  cases goes_of_step step with
  | aside aside =>
    cases isOpen : t.phase.isOpen with
    | true =>
      exact h.of_live isOpen aside.live aside.rests (by rw [aside.entries])
        (by rw [aside.entries]; exact id)
    | false => exact holding_of_closed (aside.isOpen.trans isOpen)
  | ended entries closed => exact holding_of_closed closed
  | begun s l before after sink next entries disk now =>
    refine h.of_live (by rw [before]; rfl) ?_ (rests disk) (by rw [entries])
      (by rw [entries]; exact id)
    rw [before, after]
    exact congrArg Sink.live sink
  | requested same =>
    subst same
    cases isOpen : t.phase.isOpen with
    | true =>
      refine h.of_live isOpen ?_ (rests rfl) ?_ ?_
      · rw [request, request_sink]
      · rw [request, List.foldl_append]
        rfl
      · exact fun hflushed => exists_of_append hflushed (by simp [Entry.isFlushed])
    | false => exact holding_of_closed ((request_isOpen t.phase).trans isOpen)
  | took cause plan s w plain called flag next =>
    refine h.called called (by rintro rfl; simp at plain) fun hhand entry hmem => ?_
    have hidle := (plain.resolve_right fun looping => by simp [hhand] at looping).2
    exact Entry.isFlushed_of_isByHand (onlyByHand called.isOpen hidle entry hmem)
  | ticked l before due called next => exact h.called called (by simp) (by simp)
  | flushed s w looping waiting called flag next => exact h.flush called

theorem holding_start {settings : Settings} {destination : Option Destination} {s : Sink}
    {w₀ w : World} (start : Sink.start settings destination w₀ = (.ok s, w))
    (sound : w₀.disk.Sound) : Holding (s.live.bytes w.disk) (.start s w) := by
  obtain ⟨b, w₁, hopen, sound₁⟩ := Sink.openLive_of_start start sound
  obtain ⟨handle, seated, -⟩ := Course.seated_of_openLive hopen sound₁
  refine ⟨fun _ handle' opened => ?_, fun _ ⟨entry, hmem, _⟩ => absurd hmem List.not_mem_nil⟩
  obtain rfl : handle = handle' := Option.some.inj (seated.opened.symm.trans opened)
  exact ⟨seated, seated.bytes.symm⟩

/-! ### Whole runs -/

/-- What holds of flush requests, whatever has been done with the sink. -/
structure Coalesced (t : Chronicle) : Prop where
  one : t.begun ≤ t.accepted ∧ t.accepted ≤ t.begun + 1
  /-- The accepted requests are the flushes performed and the one that waits. -/
  counted : t.phase.isOpen = true →
    t.flushed + t.phase.sink.flushWaiting.toNat = t.accepted
  /-- From a request on, whatever its answer, a flush waits until one has been performed. -/
  waits : t.phase.isOpen = true → ∀ before answer after,
    t.entries = before ++ .requested answer :: after →
      t.phase.sink.flushWaiting = true ∨ ∃ entry ∈ after, entry.isFlushed = true
  /-- Once it has been performed, the live file holds only records that have been written since the
  request. -/
  left : t.phase.isOpen = true → ∀ before answer after,
    t.entries = before ++ .requested answer :: after →
      (∃ entry ∈ after, entry.isFlushed = true) →
        ∃ handle recent, t.phase.sink.live.Seated t.world.disk handle ∧
          recent <:+ after.filterMap Entry.written? ∧
          handle.bytes t.world.disk = recent.flatten
  /-- With nobody left to take it, a request is answered with no, for good. -/
  refused : t.phase.isOpen = false → ∀ t', Run t t' → t'.phase.requestFlush.1 = false

theorem Reckoned.coalesced (h : Reckoned t) (holding : Holding found t) : Coalesced t where
  one := h.begun
  counted := fun isOpen => (h.performed isOpen).2
  waits := h.behind
  left := by
    intro isOpen before answer after hsplit hflushed
    obtain ⟨handle, hhandle⟩ := Option.isSome_iff_exists.mp <| holding.opened isOpen <| by
      obtain ⟨entry, hmem, hentry⟩ := hflushed
      rw [hsplit]
      exact ⟨entry, List.mem_append_right _ (List.mem_cons_of_mem _ hmem), hentry⟩
    obtain ⟨seated, hbytes⟩ := holding.holds isOpen handle hhandle
    rw [hsplit, List.foldl_append, List.foldl_cons] at hbytes
    obtain ⟨recent, hrecent, hhold⟩ := Entry.foldl_hold
      (Entry.hold (before.foldl Entry.hold found) (.requested answer)) after
    have hrolls : after.any Entry.rolls = true := by
      obtain ⟨entry, hmem, hentry⟩ := hflushed
      exact List.any_eq_true.mpr ⟨entry, hmem, Entry.rolls_of_isFlushed hentry⟩
    rw [hhold, if_pos hrolls, List.nil_append] at hbytes
    exact ⟨handle, recent, seated, hrecent, hbytes⟩
  refused := by
    intro closed t' run
    rw [request_answer, run.closed closed]
    rfl

/-- Coalescing flush requests loses none, along any run of a sink that has been started. -/
theorem requests_coalesced {settings : Settings} {destination : Option Destination} {s : Sink}
    {w₀ w : World} (start : Sink.start settings destination w₀ = (.ok s, w))
    (sound : w₀.disk.Sound) (run : Run (.start s w) t) : Coalesced t := by
  have hflag := (Sink.start_rolledAt start).2
  have both : Reckoned t ∧ Holding (s.live.bytes w.disk) t := by
    induction run with
    | refl =>
      refine ⟨⟨⟨Nat.le_refl _, Nat.zero_le _⟩, fun _ => ⟨rfl, ?_⟩,
        fun _ before answer after h => ?_⟩, holding_start start sound⟩
      · show 0 + s.flushWaiting.toNat = 0
        rw [hflag]
        rfl
      · exact absurd h (by simp [Chronicle.start])
    | tail run step ih =>
      exact ⟨ih.1.step step, ih.2.step (onlyByHand_of_run run) step⟩
  exact both.1.coalesced both.2

/-- A record is written, and a flush is requested. -/
def requestedOnce (s : Sink) (w : World) : Chronicle :=
  ((start s w).output s [97]).request

/-- After that another flush is requested and the loop is started. -/
def loopStarted (s : Sink) (w : World) : Loop × World :=
  Loop.start (requestedOnce s w).request.phase.sink 1 (requestedOnce s w).request.world

/-- Then the loop takes in the flush. -/
def flushedOnce (s : Sink) (w : World) : Chronicle :=
  { (requestedOnce s w).request with
    phase := .looping (loopStarted s w).1, world := (loopStarted s w).2 }.flush (loopStarted s w).1

/-- Two requests and one flush: the second request is answered with no, and yet the record that was
written before it has left the live file. -/
theorem requests_coalesced_twice :
    ∃ s w t before after, Sink.start { Settings.default with connection := "buf:dest".toList }
        (some (.archive .unset)) (.fresh ['w']) = (.ok s, w) ∧
      Run (start s w) t ∧ t.entries = before ++ .requested false :: after ∧
      before.filterMap Entry.written? = [[97]] ∧ t.accepted = 1 ∧ t.flushed = 1 ∧
      ∃ handle, t.phase.sink.live.Seated t.world.disk handle ∧ handle.bytes t.world.disk = [] := by
  have hcheck : Sink.passes (Sink.start { Settings.default with connection := "buf:dest".toList }
      (some (.archive .unset)) (.fresh ['w'])) (fun s w =>
        !(requestedOnce s w).phase.requestFlush.1 && (loopStarted s w).1.isRunning &&
          (loopStarted s w).1.sink.flushWaiting && (flushedOnce s w).phase.isOpen &&
          decide ((requestedOnce s w).entries.filterMap Entry.written? = [[97]]) &&
          decide ((flushedOnce s w).entries.filterMap Entry.written? = [[97]]) &&
          decide ((flushedOnce s w).accepted = 1) && decide ((flushedOnce s w).flushed = 1))
        = true := by decide +kernel
  obtain ⟨s, w, hstart, hcheck⟩ := Sink.exists_of_passes hcheck
  simp only [Bool.and_eq_true, Bool.not_eq_true', decide_eq_true_eq] at hcheck
  obtain ⟨⟨⟨⟨⟨⟨⟨hanswer, hrunning⟩, hwaiting⟩, hopen⟩, hbefore⟩, hall⟩, haccepted⟩, hflushed⟩ :=
    hcheck
  have run : Run (start s w) (flushedOnce s w) := by
    have requested : Run (start s w) (requestedOnce s w).request :=
      ((Relation.ReflTransGen.single (.output s [97] rfl)).tail .request).tail .request
    exact (requested.tail (.run _ 1 rfl)).tail (.flush _ rfl hrunning hwaiting)
  obtain ⟨after, hafter⟩ : ∃ after, (flushedOnce s w).entries
      = (requestedOnce s w).request.entries ++ after := ⟨_, rfl⟩
  have hsplit : (flushedOnce s w).entries
      = (requestedOnce s w).entries ++ .requested false :: after := by
    rw [hafter, Chronicle.request, hanswer, List.append_assoc]
    rfl
  have coalesced := requests_coalesced hstart World.fresh_sound run
  have hcount := coalesced.counted hopen
  have hnone : (flushedOnce s w).phase.sink.flushWaiting = false := by
    cases hflag : (flushedOnce s w).phase.sink.flushWaiting with
    | false => rfl
    | true =>
      rw [hflag, haccepted, hflushed] at hcount
      exact absurd hcount (by decide)
  have performed := (coalesced.waits hopen _ _ _ hsplit).resolve_left (by simp [hnone])
  obtain ⟨handle, recent, seated, hrecent, hbytes⟩ := coalesced.left hopen _ _ _ hsplit performed
  have hlater : after.filterMap Entry.written? = [] := by
    rw [hsplit, List.filterMap_append, hbefore] at hall
    exact List.append_right_eq_self.mp hall
  rw [hlater, List.suffix_nil] at hrecent
  rw [hrecent] at hbytes
  exact ⟨s, w, _, _, after, hstart, run, hsplit, hbefore, haccepted, hflushed, handle, seated,
    hbytes⟩

end Chronicle

end Outbox
