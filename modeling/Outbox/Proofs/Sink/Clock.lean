import Outbox.Proofs.Sink.Course
import Outbox.Proofs.Sink.Interleavings

/-!
# The clock of a sink

Nothing that a sink does takes time or sets a clock (`World.Timeless`). Its live file remembers when
it was opened or rolled over for the last time, and no other operation touches that
(`Operation.perform_clock`).
-/

set_option autoImplicit false

namespace Outbox

variable {w w' : World}

namespace World

/-- No time has passed, and the wall clock has not been set. -/
structure Timeless (w w' : World) : Prop where
  now : w'.now = w.now
  wall : w'.wall = w.wall

theorem Timeless.refl (w : World) : w.Timeless w :=
  ⟨rfl, rfl⟩

theorem Timeless.trans {w'' : World} (h : w.Timeless w') (h' : w'.Timeless w'') : w.Timeless w'' :=
  ⟨h'.now.trans h.now, h'.wall.trans h.wall⟩

theorem timeless_attempt {α : Type} {operation : Disk → Except IoError (α × Disk)}
    {result : Except IoError α} (h : w.attempt operation = (result, w')) : w.Timeless w' := by
  rw [attempt] at h
  rw [← (Prod.mk.inj h).2]
  exact ⟨rfl, rfl⟩

end World

/-! ### Starting takes no time -/

theorem Destination.configure_now {b b' : Destination} {connection : Connection}
    {result : Except UploadError Unit} (h : b.configure connection w = (result, b', w')) :
    w'.now = w.now := by
  cases b with
  | archive a =>
    simp only [configure, Archive.configure, Prod.mk.injEq] at h
    obtain ⟨-, -, rfl⟩ := h
    split
    · rfl
    · split <;> rfl
  | store s =>
    simp only [configure, Prod.mk.injEq] at h
    rw [h.2.2]
  | scripted s =>
    simp only [configure, Prod.mk.injEq] at h
    rw [h.2.2]

theorem Sink.prepareBuffer_now {dir : Path} (h : prepareBuffer dir w = (.ok (), w')) :
    w'.now = w.now := by
  rw [prepareBuffer] at h
  split at h
  · exact absurd h (by simp)
  dsimp only at h
  split at h
  · exact absurd h (by simp)
  next hwrite =>
  split at h
  all_goals
    next hremove =>
    rw [← (Prod.mk.inj h).2]
    exact ((World.timeless_attempt hwrite).trans (World.timeless_attempt hremove)).now

theorem LiveFile.openAt_now {path : Path} {live : LiveFile}
    (h : openAt path w = (.ok live, w')) : w'.now = w.now := by
  rw [openAt] at h
  split at h
  · exact absurd h (by simp)
  split at h
  · exact absurd h (by simp)
  next hopen =>
  split at h
  · exact absurd h (by simp)
  next hlength =>
  rw [← (Prod.mk.inj h).2]
  have hnow := ((World.timeless_attempt hopen).trans (World.timeless_attempt hlength)).now
  split
  · exact hnow
  · exact hnow

theorem Sink.queueLeftovers_now (s : Sink) (w : World) :
    (s.queueLeftovers w).2.now = w.now ∧ (s.queueLeftovers w).1.settings = s.settings := by
  rw [queueLeftovers]
  split
  · next hscan =>
    have hnow := (World.timeless_attempt hscan).now
    exact ⟨hnow, rfl⟩
  · next hscan =>
    have hnow := (World.timeless_attempt hscan).now
    refine ⟨?_, rfl⟩
    dsimp only
    split
    · exact hnow
    · exact hnow

/-- A sink that has started has its settings, and no time has passed. -/
theorem Sink.start_now {settings : Settings} {destination : Option Destination} {s : Sink}
    (h : start settings destination w = (.ok s, w')) :
    w'.now = w.now ∧ s.settings = settings := by
  obtain ⟨b, b', w₁, w₂, -, hconfigure, hprepare, -, hopen⟩ := start_ok h
  have hbefore := (prepareBuffer_now hprepare).trans (Destination.configure_now hconfigure)
  rw [openLive] at hopen
  split at hopen
  · exact absurd hopen (by simp)
  next live w₃ hlive =>
  obtain ⟨hnow, hsettings⟩ := queueLeftovers_now (ofParts settings settings.bufferDir b' live) w₃
  simp only [Prod.mk.injEq, Except.ok.injEq] at hopen
  obtain ⟨rfl, rfl⟩ := hopen
  exact ⟨(hnow.trans (LiveFile.openAt_now hlive)).trans hbefore, hsettings⟩

theorem LiveFile.openAt_rolledAt {path : Path} {live : LiveFile}
    (h : openAt path w = (.ok live, w')) : live.rolledAt = w'.now := by
  rw [openAt] at h
  split at h
  · exact absurd h (by simp)
  split at h
  · exact absurd h (by simp)
  split at h
  · exact absurd h (by simp)
  simp only [Prod.mk.injEq] at h
  obtain ⟨hlive, hw⟩ := h
  rw [hw] at hlive
  split at hlive
  · rw [← Except.ok.inj hlive]
  · exact absurd hlive (by simp)

/-- A sink that has started has just opened its live file, and no flush waits. -/
theorem Sink.start_rolledAt {settings : Settings} {destination : Option Destination} {s : Sink}
    (h : start settings destination w = (.ok s, w')) :
    s.live.rolledAt = w.now ∧ s.flushWaiting = false := by
  have hnow := (start_now h).1
  obtain ⟨_, b', _, w₂, -, -, -, -, hopen⟩ := start_ok h
  rw [openLive] at hopen
  split at hopen
  · exact absurd hopen (by simp)
  next live w₃ hlive =>
  have hqueued := (queueLeftovers_now (ofParts settings settings.bufferDir b' live) w₃).1
  have hsame : ((ofParts settings settings.bufferDir b' live).queueLeftovers w₃).1.live = live ∧
      ((ofParts settings settings.bufferDir b' live).queueLeftovers w₃).1.flushWaiting = false := by
    rw [queueLeftovers]
    split <;> exact ⟨rfl, rfl⟩
  simp only [Prod.mk.injEq, Except.ok.injEq] at hopen
  obtain ⟨rfl, rfl⟩ := hopen
  refine ⟨?_, hsame.2⟩
  rw [hsame.1, LiveFile.openAt_rolledAt hlive, ← hqueued]
  exact hnow

/-! ### Operations -/

namespace LiveFile

variable {file file' : LiveFile}

theorem timeless_settle (handle : Handle) (failed : IoError → Event) (w : World) :
    w.Timeless (settle handle failed w) := by
  rw [settle]
  split
  all_goals
    next hsync =>
    have htimeless := World.timeless_attempt hsync
    exact ⟨htimeless.now, htimeless.wall⟩

theorem append_clock {record : Bytes} {result : Except IoError Unit}
    (h : file.append record w = (result, file', w')) :
    file'.rolledAt = file.rolledAt ∧ w.Timeless w' := by
  rw [append] at h
  split at h
  · simp only [Prod.mk.injEq] at h
    obtain ⟨-, rfl, rfl⟩ := h
    exact ⟨rfl, .refl _⟩
  split at h
  all_goals
    next hwrite =>
    simp only [Prod.mk.injEq] at h
    obtain ⟨-, rfl, rfl⟩ := h
    exact ⟨rfl, World.timeless_attempt hwrite⟩

theorem reopen_clock {result : Except IoError Unit} (h : file.reopen w = (result, file', w')) :
    file'.rolledAt = file.rolledAt ∧ w.Timeless w' := by
  rw [reopen] at h
  split at h
  all_goals
    next hopen =>
    simp only [Prod.mk.injEq] at h
    obtain ⟨-, rfl, rfl⟩ := h
    exact ⟨rfl, World.timeless_attempt hopen⟩

/-- A rollover that succeeds happens now, and one that fails has not happened. -/
theorem rollOver_clock {pattern : Text} {result : Except IoError Path}
    (h : file.rollOver pattern w = (result, file', w')) :
    file'.rolledAt = (if result.isOk then w.now else file.rolledAt) ∧ w.Timeless w' := by
  rw [rollOver] at h
  split at h
  · simp only [Prod.mk.injEq] at h
    obtain ⟨rfl, rfl, rfl⟩ := h
    exact ⟨rfl, .refl _⟩
  next handle _ =>
  split at h
  · simp only [Prod.mk.injEq] at h
    obtain ⟨rfl, rfl, rfl⟩ := h
    exact ⟨rfl, .refl _⟩
  have hsettle := timeless_settle handle (.syncBeforeRolloverFailed file.path) w
  dsimp only at h
  split at h
  · next hrename =>
    have hbefore := hsettle.trans (World.timeless_attempt hrename)
    split at h
    all_goals
      next hreopen =>
      obtain ⟨hrolled, htimeless⟩ := reopen_clock hreopen
      simp only [Prod.mk.injEq] at h
      obtain ⟨rfl, rfl, rfl⟩ := h
      exact ⟨hrolled, hbefore.trans htimeless⟩
  · next hrename =>
    have hbefore := hsettle.trans (World.timeless_attempt hrename)
    split at h
    · next hreopen =>
      obtain ⟨hrolled, htimeless⟩ := reopen_clock hreopen
      simp only [Prod.mk.injEq] at h
      obtain ⟨rfl, rfl, rfl⟩ := h
      exact ⟨hrolled, hbefore.trans htimeless⟩
    · next hreopen =>
      have htimeless := hbefore.trans (reopen_clock hreopen).2
      simp only [Prod.mk.injEq] at h
      obtain ⟨rfl, rfl, rfl⟩ := h
      exact ⟨htimeless.now, htimeless⟩

theorem timeless_close (file : LiveFile) (w : World) : w.Timeless (file.close w).2 := by
  rw [close]
  split
  · exact .refl w
  · exact timeless_settle _ _ w

end LiveFile

namespace Sink

variable {s : Sink}

/-- Whether an operation has rolled the live file over. -/
def rolls : Done → Bool
  | (.rollOver, .ok ()) => true
  | _ => false

/-- What operations do to the clock of the live file, if they have rolled it over or not, and what
they have nothing to do with. -/
structure Ticks (rolled : Bool) (s : Sink) (w : World) (s' : Sink) (w' : World) : Prop where
  settings : s'.settings = s.settings
  flushWaiting : s'.flushWaiting = s.flushWaiting
  rolledAt : s'.live.rolledAt = if rolled then w.now else s.live.rolledAt
  timeless : w.Timeless w'

theorem Operation.perform_clock (operation : Operation) (s : Sink) (w : World) :
    Ticks (rolls (operation, (operation.perform s w).1)) s w (operation.perform s w).2.1
      (operation.perform s w).2.2 := by
  cases operation with
  | append record =>
    rw [Operation.perform, Sink.append]
    rcases happend : s.live.append record w with ⟨e | _, live, w'⟩
    all_goals
      obtain ⟨hrolled, htimeless⟩ := LiveFile.append_clock happend
      exact ⟨rfl, rfl, hrolled, htimeless⟩
  | rollOver =>
    rw [Operation.perform]
    rcases s.rollOver_cases w with
      ⟨e, live, w', hroll, hresult⟩ | ⟨path, live, w', hroll, hresult⟩
    · obtain ⟨hrolled, htimeless⟩ := LiveFile.rollOver_clock hroll
      rw [hresult]
      exact ⟨rfl, rfl, hrolled, htimeless⟩
    · obtain ⟨hrolled, htimeless⟩ := LiveFile.rollOver_clock hroll
      rw [hresult]
      refine ⟨?_, ?_, ?_, htimeless⟩
      · dsimp only
        split <;> rfl
      · dsimp only
        split <;> rfl
      · dsimp only
        split <;> exact hrolled
  | dispatchNext =>
    rw [Operation.perform, Sink.dispatchNext]
    split
    · exact ⟨rfl, rfl, rfl, .refl w⟩
    · split <;> exact ⟨rfl, rfl, rfl, .refl w⟩

/-- What single operations keep is kept by a plan of them, however far it is done. -/
theorem performAll_along {P : List Done → Sink → World → Prop}
    (perform : ∀ (done : List Done) (operation : Operation) (s : Sink) (w : World), P done s w →
      P (done ++ [(operation, (operation.perform s w).1)]) (operation.perform s w).2.1
        (operation.perform s w).2.2)
    (done : List Done) (plan : List Operation) (h : P done s w) :
    P (done ++ (performAll plan s w).1) (performAll plan s w).2.2.1
      (performAll plan s w).2.2.2 := by
  induction plan generalizing done s w with
  | nil =>
    rw [performAll, List.append_nil]
    exact h
  | cons operation rest ih =>
    have hafter := perform done operation s w h
    rw [performAll]
    generalize operation.perform s w = result at hafter ⊢
    obtain ⟨e | _, s', w'⟩ := result
    · exact hafter
    · have hrest := ih _ hafter
      rw [List.append_assoc] at hrest
      exact hrest

theorem performAll_clock (plan : List Operation) (s : Sink) (w : World) :
    Ticks ((performAll plan s w).1.any rolls) s w (performAll plan s w).2.2.1
      (performAll plan s w).2.2.2 := by
  have along := @performAll_along w s (fun done s' w' => Ticks (done.any rolls) s w s' w')
  refine along (fun done operation s' w' h => ?_) [] plan ⟨rfl, rfl, rfl, .refl w⟩
  have hclock := operation.perform_clock s' w'
  refine ⟨hclock.settings.trans h.settings, hclock.flushWaiting.trans h.flushWaiting, ?_,
    h.timeless.trans hclock.timeless⟩
  rw [hclock.rolledAt, h.rolledAt, h.timeless.now, List.any_append, List.any_cons, List.any_nil]
  cases rolls (operation, (operation.perform s' w').1) <;> cases done.any rolls <;> rfl

end Sink

/-! ### Deliveries -/

namespace Shelf

theorem timeless_openStaged (path : Path) (tries n : Nat) (w : World) :
    w.Timeless (openStaged path tries n w).2 := by
  induction tries generalizing n w with
  | zero => exact .refl w
  | succ tries ih =>
    rw [openStaged]
    dsimp only
    split
    · next hnew => exact World.timeless_attempt hnew
    · next hnew => exact (World.timeless_attempt hnew).trans (ih _ _)
    · next w₁ hnew =>
      have hbefore := World.timeless_attempt hnew
      split
      · next disk _ =>
        have hrest := ih n { w₁ with disk }
        exact hbefore.trans ⟨hrest.now, hrest.wall⟩
      · exact hbefore.trans ⟨rfl, rfl⟩
    · next hnew => exact World.timeless_attempt hnew

theorem timeless_putFile (key : ObjectKey) (bytes : Bytes) (w : World) :
    w.Timeless (putFile key bytes w).2 := by
  have hopen := timeless_openStaged (pathOf key) (w.disk.nodes.length + 2) 1 w
  rw [putFile]
  split
  · next h => rwa [h] at hopen
  next h =>
  rw [h] at hopen
  split
  · next hwrite =>
    have hbefore := hopen.trans (World.timeless_attempt hwrite)
    exact hbefore.trans (World.timeless_attempt rfl)
  next hwrite =>
  have hbefore := hopen.trans (World.timeless_attempt hwrite)
  split
  · next hrename =>
    exact (hbefore.trans (World.timeless_attempt hrename)).trans (World.timeless_attempt rfl)
  · next hrename => exact hbefore.trans (World.timeless_attempt hrename)

theorem timeless_put (shelf : Shelf) (key : ObjectKey) (bytes : Bytes) (w : World) :
    w.Timeless (shelf.put key bytes w).2.2 := by
  cases shelf with
  | memory objects => exact .refl w
  | files => exact timeless_putFile key bytes w
  | remote kind => exact .refl w

end Shelf

theorem ObjectStore.timeless_turn (s : ObjectStore) (path : Path) (source : Handle) (w : World) :
    w.Timeless (s.turn path source w).2.2 := by
  have hput : w.Timeless (s.putContent path source w).2.2 := by
    rw [putContent]
    split
    · exact .refl w
    next key _ =>
    split
    · next hread => exact World.timeless_attempt hread
    next bytes w₁ hread =>
    have hshelf := s.shelf.timeless_put key bytes w₁
    split
    all_goals
      next h =>
      rw [h] at hshelf
      exact (World.timeless_attempt hread).trans hshelf
  rw [turn]
  split
  all_goals
    next h => rwa [h] at hput

namespace Archive

theorem timeless_copyContent (source out : Handle) (w : World) :
    w.Timeless (copyContent source out w).2 := by
  rw [copyContent]
  split
  · next hread => exact World.timeless_attempt hread
  next hread =>
  split
  all_goals
    next hwrite => exact (World.timeless_attempt hread).trans (World.timeless_attempt hwrite)

theorem timeless_turn (a : Archive) (path : Path) (source : Handle) (stage : Delivery)
    (w : World) : w.Timeless (a.turn path source stage w).2.2 := by
  rw [turn]
  split
  · exact .refl w
  cases stage with
  | begun =>
    dsimp only
    split
    all_goals
      next hcreate =>
      have htimeless := World.timeless_attempt hcreate
      exact htimeless
  | copying out =>
    have hcopy := timeless_copyContent source out w
    dsimp only
    split
    · next h =>
      rw [h] at hcopy
      exact hcopy.trans (World.timeless_attempt rfl)
    · next h => rwa [h] at hcopy
  | syncing out bytes =>
    dsimp only
    split
    all_goals
      next hsync =>
      have htimeless := World.timeless_attempt hsync
      exact htimeless
  | naming bytes =>
    dsimp only
    split
    all_goals
      next hrename =>
      have htimeless := World.timeless_attempt hrename
      exact htimeless
  | held => exact .refl w

end Archive

theorem Scripted.timeless_act (s : Scripted) (path : Path) (source : Handle) (action : Action)
    (w : World) : w.Timeless (s.act path source action w).2.2 := by
  cases action with
  | keep =>
    rw [act]
    split
    all_goals
      next hread =>
      have htimeless := World.timeless_attempt hread
      exact htimeless
  | _ => exact .refl w

namespace Destination

theorem timeless_turn (b : Destination) (path : Path) (source : Handle) (stage : Delivery)
    (w : World) : w.Timeless (b.turn path source stage w).2.2 := by
  cases b with
  | archive a => exact a.timeless_turn path source stage w
  | store s => exact s.timeless_turn path source w
  | scripted s =>
    cases stage with
    | held => exact .refl w
    | _ => exact Scripted.timeless_act _ path source _ w

theorem timeless_act (b : Destination) (path : Path) (source : Handle) (action : Action)
    (w : World) : w.Timeless (b.act path source action w).2.2 := by
  cases b with
  | scripted s => exact s.timeless_act path source action w
  | _ => exact .refl w

end Destination

namespace Upload

theorem timeless_turn (u : Upload) (b : Destination) (w : World) :
    w.Timeless (u.turn b w).2.2 := by
  rw [turn]
  split
  · split
    all_goals
      next hopen =>
      have htimeless := World.timeless_attempt hopen
      exact htimeless
  · next source stage _ => exact b.timeless_turn u.path source stage w
  · split
    all_goals
      next hremove =>
      have htimeless := World.timeless_attempt hremove
      exact ⟨htimeless.now, htimeless.wall⟩
  · exact .refl w

theorem timeless_release (u : Upload) (action : Action) (b : Destination) (w : World) :
    w.Timeless (u.release action b w).2.2 := by
  rw [release]
  split
  · next source _ => exact b.timeless_act u.path source action w
  · exact .refl w

end Upload

theorem Sink.timeless_settleOutcome (s : Sink) (outcome : Outcome) (w : World) :
    w.Timeless (s.settleOutcome outcome w).2 := by
  have htell : ∀ event, w.Timeless (tellMaybe event w) := by
    intro event
    cases event <;> exact ⟨rfl, rfl⟩
  rw [settleOutcome]
  split
  · exact ⟨rfl, rfl⟩
  · exact htell _

/-! ### Steps -/

/-- No step takes time or sets a clock but what others do. -/
theorem Course.Step.timeless {outside deliveries : World → World → Prop} {c c' : Course}
    (step : Step outside deliveries c c') :
    c.world.Timeless c'.world ∨ outside c.world c'.world := by
  cases step with
  | output record =>
    refine .inl ?_
    rw [Course.output, go, Sink.output_eq]
    exact (Sink.performAll_clock _ _ _).timeless
  | rollOver => exact .inl (Sink.Operation.perform_clock .rollOver c.sink c.world).timeless
  | tick =>
    refine .inl ?_
    rw [Course.tick, go, Sink.tick_eq]
    exact (Sink.performAll_clock _ _ _).timeless
  | flag => exact .inl (.refl _)
  | turn before u after => exact .inl (u.timeless_turn _ _)
  | release before u after action => exact .inl (u.timeless_release action _ _)
  | handIn => exact .inl (.refl _)
  | settle outcome rest => exact .inl (Sink.timeless_settleOutcome _ outcome _)
  | close => exact .inl (c.sink.live.timeless_close c.world)
  | outside w acts => exact .inr acts

end Outbox
