import Outbox.Sink.Start
import Outbox.Proofs.LiveFile.Operations

/-!
# Courses of a sink

A course is a sink in its world together with what it has done so far, its deeds. Nothing depends
on the deeds; they are written down beside the state so that a state can be compared with all that
led to it. A step is one call on the sink, one turn of one of its uploads, the end of an upload
handed in or taken in, or something that others do. Any order of steps is a course.

What others may do, and what a delivery may do to the world, are parameters of the steps. Every
property is proved for the widest choice of them under which it holds.
-/

set_option autoImplicit false

namespace Outbox

/-- Something that a sink has done. -/
inductive Deed where
  | accepted (record : Bytes)
  /-- What the live file held, `bytes`, got the name `path`. -/
  | closed (path : Path) (bytes : Bytes)
  | rolled (path : Path)
  | dispatched (path : Path)
  | delivered (path : Path) (bytes : Bytes)
  | settled (outcome : Outcome)

namespace Deed

def accepted? : Deed → Option Bytes
  | .accepted record => some record
  | _ => none

def closed? : Deed → Option Bytes
  | .closed _ bytes => some bytes
  | _ => none

def rolled? : Deed → Option Path
  | .rolled path => some path
  | _ => none

def dispatched? : Deed → Option Path
  | .dispatched path => some path
  | _ => none

def delivered? : Deed → Option Bytes
  | .delivered _ bytes => some bytes
  | _ => none

def uploaded? : Deed → Option Path
  | .settled { path, result := .ok () } => some path
  | _ => none

def failed? : Deed → Option (Path × UploadError)
  | .settled { path, result := .error e } => some (path, e)
  | _ => none

end Deed

/-- The ways a rollover can go for a sink. -/
theorem Sink.rollOver_cases (s : Sink) (w : World) :
    (∃ e live w', s.live.rollOver LiveFile.stampPattern w = (.error e, live, w') ∧
      s.rollOver w = (.error (.rollOver e), { s with live }, w')) ∨
    ∃ path live w', s.live.rollOver LiveFile.stampPattern w = (.ok path, live, w') ∧
      s.rollOver w = (.ok path, if s.atCapacity then { s with live, fileSize := 0 }.enqueue path
        else { s with live, fileSize := 0 }.dispatch path, w') := by
  rcases hlive : s.live.rollOver LiveFile.stampPattern w with ⟨e | path, live, w'⟩
  · exact .inl ⟨e, live, w', rfl, by rw [Sink.rollOver, hlive]⟩
  · refine .inr ⟨path, live, w', rfl, ?_⟩
    rw [Sink.rollOver, hlive]
    rfl

/-- A sink in its world, and what it has done. -/
structure Course where
  sink : Sink
  world : World
  deeds : List Deed

namespace Course

/-! ### Calls on the sink -/

/-- The uploads that one sink has started and another one had not. -/
def started (s s' : Sink) : List Deed :=
  (s'.uploads.drop s.uploads.length).map fun u => .dispatched u.path

/-- The deed of putting away what the live file holds. -/
def closing (s : Sink) (w : World) : List Deed :=
  match s.live.putAway LiveFile.stampPattern w with
  | .moved target _ => [.closed target (s.live.bytes w.disk)]
  | _ => []

def rolling : Except SinkError Path → List Deed
  | .ok path => [.rolled path]
  | .error _ => []

/-- The deeds of a rollover, but for the upload that it may start. -/
def rollDeeds (s : Sink) (w : World) : List Deed :=
  closing s w ++ rolling (s.rollOver w).1

/-- A call on the sink has led to another sink and world. -/
def go {α : Type} (c : Course) (result : α × Sink × World) (before after : List Deed) : Course :=
  { sink := result.2.1, world := result.2.2
    deeds := c.deeds ++ (before ++ started c.sink result.2.1 ++ after) }

def rollOver (c : Course) : Course :=
  c.go (c.sink.rollOver c.world) (rollDeeds c.sink c.world) []

def taking (record : Bytes) : Except SinkError Unit → List Deed
  | .ok () => [.accepted record]
  | .error _ => []

def append (c : Course) (record : Bytes) : Course :=
  c.go (c.sink.append record c.world) [] (taking record (c.sink.append record c.world).1)

def output (c : Course) (record : Bytes) : Course :=
  c.go (c.sink.output record c.world)
    (if c.sink.overflows record then rollDeeds c.sink c.world else [])
    (taking record (c.sink.output record c.world).1)

def dispatchNext (c : Course) : Course :=
  c.go ((), c.sink.dispatchNext, c.world) [] []

def tick (c : Course) : Course :=
  c.go (c.sink.tick c.world)
    (if c.sink.isOverdue c.world then rollDeeds c.sink c.world else []) []

def close (c : Course) : Course :=
  { c with
    sink := { c.sink with live := (c.sink.live.close c.world).1 }
    world := (c.sink.live.close c.world).2 }

/-! ### Uploads -/

/-- The deed of an upload whose destination has taken the file. -/
def delivery (u u' : Upload) (w : World) : List Deed :=
  match u.phase, u'.phase with
  | .delivering source _, .removing => [.delivered u.path (source.bytes w.disk)]
  | _, _ => []

/-- An upload between others has gone on. -/
def goUpload (c : Course) (u : Upload) (result : Upload × Destination × World)
    (uploads : List Upload) : Course :=
  { sink := { c.sink with uploads, destination := result.2.1 }, world := result.2.2
    deeds := c.deeds ++ delivery u result.1 c.world }

def turn (c : Course) (before : List Upload) (u : Upload) (after : List Upload) : Course :=
  let result := u.turn c.sink.destination c.world
  c.goUpload u result (before ++ result.1 :: after)

def release (c : Course) (before : List Upload) (u : Upload) (after : List Upload)
    (action : Action) : Course :=
  let result := u.release action c.sink.destination c.world
  c.goUpload u result (before ++ after ++ [result.1])

def handIn (c : Course) (uploads : List Upload) (outcome : Outcome) : Course :=
  { c with sink := { c.sink with uploads, outcomes := c.sink.outcomes ++ [outcome] } }

def settle (c : Course) (outcome : Outcome) (rest : List Outcome) : Course :=
  let result := { c.sink with outcomes := rest }.settleOutcome outcome c.world
  { sink := result.1, world := result.2, deeds := c.deeds ++ [.settled outcome] }

theorem turn_path (u : Upload) (b : Destination) (w : World) : (u.turn b w).1.path = u.path := by
  rw [Upload.turn]
  split
  · split <;> rfl
  · rfl
  · split <;> rfl
  · rfl

theorem release_path (u : Upload) (action : Action) (b : Destination) (w : World) :
    (u.release action b w).1.path = u.path := by
  rw [Upload.release]
  split <;> rfl

/-! ### Steps -/

/-- One step of a course. What others do to the world is in `outside`, and what a delivery does to
it in `deliveries`. -/
inductive Step (outside deliveries : World → World → Prop) : Course → Course → Prop where
  | output (c : Course) (record : Bytes) : Step outside deliveries c (c.output record)
  | rollOver (c : Course) : Step outside deliveries c c.rollOver
  | tick (c : Course) : Step outside deliveries c c.tick
  | flag (c : Course) (flushWaiting : Bool) :
      Step outside deliveries c { c with sink := { c.sink with flushWaiting } }
  | turn (c : Course) (before : List Upload) (u : Upload) (after : List Upload)
      (among : c.sink.uploads = before ++ u :: after)
      (delivers : ∀ {source stage}, u.phase = .delivering source stage →
        deliveries c.world (c.turn before u after).world) :
      Step outside deliveries c (c.turn before u after)
  | release (c : Course) (before : List Upload) (u : Upload) (after : List Upload)
      (action : Action) (among : c.sink.uploads = before ++ u :: after)
      (delivers : deliveries c.world (c.release before u after action).world) :
      Step outside deliveries c (c.release before u after action)
  | handIn (c : Course) (before : List Upload) (u : Upload) (after : List Upload)
      (result : Except UploadError Unit) (among : c.sink.uploads = before ++ u :: after)
      (ended : u.phase = .ended result) :
      Step outside deliveries c (c.handIn (before ++ after) { path := u.path, result })
  | settle (c : Course) (outcome : Outcome) (rest : List Outcome)
      (first : c.sink.outcomes = outcome :: rest) :
      Step outside deliveries c (c.settle outcome rest)
  | close (c : Course) : Step outside deliveries c c.close
  | outside (c : Course) (w : World) (acts : outside c.world w) :
      Step outside deliveries c { c with world := w }

/-- The courses that a course can lead to. -/
inductive Reached (outside deliveries : World → World → Prop) (c : Course) : Course → Prop where
  | start : Reached outside deliveries c c
  | step {c' c'' : Course} : Reached outside deliveries c c' →
      Step outside deliveries c' c'' → Reached outside deliveries c c''

/-! ### Calls in parts -/

theorem started_append (s : Sink) (uploads : List Upload) {s' : Sink}
    (h : s'.uploads = s.uploads ++ uploads) :
    started s s' = uploads.map fun u => .dispatched u.path := by
  rw [started, h, List.drop_left]

theorem started_of_eq {s s' : Sink} (h : s'.uploads = s.uploads) : started s s' = [] := by
  rw [started, h, List.drop_length, List.map_nil]

theorem rollOver_uploads (s : Sink) (w : World) :
    (s.rollOver w).2.1.uploads = s.uploads ∨
      ∃ path, (s.rollOver w).2.1.uploads = s.uploads ++ [Upload.ofPath path] := by
  rw [Sink.rollOver]
  split
  · exact .inl rfl
  · next rolled live w' _ =>
    by_cases h : Sink.atCapacity { s with live, fileSize := 0 }
    · simp only [h, if_true]
      exact .inl rfl
    · simp only [h, Bool.false_eq_true, if_false]
      exact .inr ⟨rolled, rfl⟩

theorem append_uploads (s : Sink) (record : Bytes) (w : World) :
    (s.append record w).2.1.uploads = s.uploads := by
  rw [Sink.append]
  split <;> rfl

theorem dispatchNext_uploads (s : Sink) :
    s.dispatchNext.uploads = s.uploads ∨
      ∃ path, s.dispatchNext.uploads = s.uploads ++ [Upload.ofPath path] := by
  rw [Sink.dispatchNext]
  split
  · exact .inl rfl
  · split
    · exact .inl rfl
    · next path rest _ => exact .inr ⟨path, rfl⟩

/-- Uploads that were started in one part of a call and then in another. -/
theorem started_trans {s s' s'' : Sink} (h : s.uploads <+: s'.uploads)
    (h' : s'.uploads <+: s''.uploads) :
    started s s'' = started s s' ++ started s' s'' := by
  obtain ⟨first, hfirst⟩ := h
  obtain ⟨second, hsecond⟩ := h'
  rw [started_append s first hfirst.symm, started_append s' second hsecond.symm,
    started_append s (first ++ second) (by rw [← hsecond, ← hfirst, List.append_assoc]),
    List.map_append]

theorem prefix_rollOver (s : Sink) (w : World) : s.uploads <+: (s.rollOver w).2.1.uploads := by
  rcases rollOver_uploads s w with h | ⟨path, h⟩
  · exact h.symm ▸ List.prefix_refl _
  · rw [h]
    exact List.prefix_append _ _

theorem prefix_dispatchNext (s : Sink) : s.uploads <+: s.dispatchNext.uploads := by
  rcases dispatchNext_uploads s with h | ⟨path, h⟩
  · exact h.symm ▸ List.prefix_refl _
  · rw [h]
    exact List.prefix_append _ _

/-- A record is appended, behind a rollover if it needs one. -/
theorem output_eq (c : Course) (record : Bytes) :
    c.output record
      = if c.sink.overflows record then
          match (c.sink.rollOver c.world).1 with
          | .ok _ => c.rollOver.append record
          | .error _ => c.rollOver
        else c.append record := by
  by_cases hover : c.sink.overflows record
  · rw [if_pos hover]
    cases hroll : c.sink.rollOver c.world with
    | mk result after =>
      obtain ⟨s, w⟩ := after
      cases result with
      | error e =>
        have hout : c.sink.output record c.world = (.error e, s, w) := by
          rw [Sink.output, if_pos hover, hroll]
        simp [output, rollOver, go, hout, hroll, hover, taking]
      | ok path =>
        have hout : c.sink.output record c.world = s.append record w := by
          rw [Sink.output, if_pos hover, hroll]
        have hfront : c.sink.uploads <+: s.uploads := by
          have := prefix_rollOver c.sink c.world
          rwa [hroll] at this
        have happend := append_uploads s record w
        have hsame : s.uploads <+: (s.append record w).2.1.uploads :=
          happend.symm ▸ List.prefix_refl _
        have hstarted := started_trans hfront hsame
        rw [started_of_eq happend, List.append_nil] at hstarted
        simp only [output, append, rollOver, go, hout, hroll, hover, if_true, hstarted,
          started_of_eq happend]
        simp
  · have hout : c.sink.output record c.world = c.sink.append record c.world := by
      rw [Sink.output, if_neg hover]
    simp [output, append, hout, hover]

/-- A tick dispatches one waiting file, behind a rollover if one is due. -/
theorem tick_eq (c : Course) :
    c.tick
      = if c.sink.isOverdue c.world then
          match (c.sink.rollOver c.world).1 with
          | .ok _ => c.rollOver.dispatchNext
          | .error _ => c.rollOver
        else c.dispatchNext := by
  by_cases hover : c.sink.isOverdue c.world
  · rw [if_pos hover]
    cases hroll : c.sink.rollOver c.world with
    | mk result after =>
      obtain ⟨s, w⟩ := after
      cases result with
      | error e =>
        have htick : c.sink.tick c.world = (.error e, s, w) := by
          rw [Sink.tick, if_pos hover, hroll]
        simp [tick, rollOver, go, htick, hroll, hover]
      | ok path =>
        have htick : c.sink.tick c.world = (.ok (), s.dispatchNext, w) := by
          rw [Sink.tick, if_pos hover, hroll]
        have hfront : c.sink.uploads <+: s.uploads := by
          have := prefix_rollOver c.sink c.world
          rwa [hroll] at this
        have hstarted := started_trans hfront (prefix_dispatchNext s)
        simp only [tick, dispatchNext, rollOver, go, htick, hroll, hover, if_true, hstarted]
        simp
  · have htick : c.sink.tick c.world = (.ok (), c.sink.dispatchNext, c.world) := by
      rw [Sink.tick, if_neg hover]
    simp [tick, dispatchNext, go, htick, hover]

/-! ### The live file -/

theorem same_rollOver (c : Course) : c.sink.live.Same c.rollOver.sink.live := by
  have hlive := c.sink.live.same_rollOver LiveFile.stampPattern c.world
  have hsink : c.rollOver.sink.live
      = (c.sink.live.rollOver LiveFile.stampPattern c.world).2.1 := by
    simp only [Course.rollOver, go, Sink.rollOver]
    split
    · next hroll => rw [hroll]
    · next hroll =>
      rw [hroll]
      dsimp only
      split <;> rfl
  rw [hsink]
  exact hlive

theorem same_append (c : Course) (record : Bytes) :
    c.sink.live.Same (c.append record).sink.live := by
  have hlive := c.sink.live.same_append record c.world
  have hsink : (c.append record).sink.live = (c.sink.live.append record c.world).2.1 := by
    simp only [Course.append, go, Sink.append]
    split
    · next happend => rw [happend]
    · next happend => rw [happend]
  rw [hsink]
  exact hlive

theorem same_dispatchNext (c : Course) : c.sink.live.Same c.dispatchNext.sink.live := by
  simp only [Course.dispatchNext, go, Sink.dispatchNext]
  split
  · exact .refl _
  · split <;> exact .refl _

/-- No step gives the live file another path or name. -/
theorem Step.same {outside deliveries : World → World → Prop} {c c' : Course}
    (step : Step outside deliveries c c') : c.sink.live.Same c'.sink.live := by
  cases step with
  | output record =>
    rw [output_eq]
    split
    · split
      · exact (same_rollOver c).trans (same_append _ record)
      · exact same_rollOver c
    · exact same_append c record
  | rollOver => exact same_rollOver c
  | tick =>
    rw [tick_eq]
    split
    · split
      · exact (same_rollOver c).trans (same_dispatchNext _)
      · exact same_rollOver c
    · exact same_dispatchNext c
  | settle outcome rest first =>
    simp only [Course.settle, Sink.settleOutcome]
    split <;> exact .refl _
  | close => exact LiveFile.same_close _ _
  | flag => exact .refl _
  | turn => exact .refl _
  | release => exact .refl _
  | handIn => exact .refl _
  | outside => exact .refl _

theorem Reached.same {outside deliveries : World → World → Prop} {c c' : Course}
    (reached : Reached outside deliveries c c') : c.sink.live.Same c'.sink.live := by
  induction reached with
  | start => exact .refl _
  | step _ step ih => exact ih.trans step.same

/-! ### The settings -/

theorem rollOver_settings (c : Course) : c.rollOver.sink.settings = c.sink.settings := by
  rcases Sink.rollOver_cases c.sink c.world with
    ⟨e, live, w', -, hroll⟩ | ⟨path, live, w', -, hroll⟩
  · simp only [Course.rollOver, go, hroll]
  · simp only [Course.rollOver, go, hroll]
    split <;> rfl

theorem append_settings (c : Course) (record : Bytes) :
    (c.append record).sink.settings = c.sink.settings := by
  simp only [Course.append, go, Sink.append]
  split <;> rfl

theorem dispatchNext_settings (c : Course) :
    c.dispatchNext.sink.settings = c.sink.settings := by
  simp only [Course.dispatchNext, go, Sink.dispatchNext]
  split
  · rfl
  · split <;> rfl

theorem Step.settings {outside deliveries : World → World → Prop} {c c' : Course}
    (step : Step outside deliveries c c') : c'.sink.settings = c.sink.settings := by
  cases step with
  | output record =>
    rw [output_eq]
    split
    · split
      · rw [append_settings, rollOver_settings]
      · exact rollOver_settings c
    · exact append_settings c record
  | rollOver => exact rollOver_settings c
  | tick =>
    rw [tick_eq]
    split
    · split
      · rw [dispatchNext_settings, rollOver_settings]
      · exact rollOver_settings c
    · exact dispatchNext_settings c
  | settle outcome rest first =>
    simp only [Course.settle, Sink.settleOutcome]
    split <;> rfl
  | _ => rfl

theorem Reached.settings {outside deliveries : World → World → Prop} {c c' : Course}
    (reached : Reached outside deliveries c c') : c'.sink.settings = c.sink.settings := by
  induction reached with
  | start => rfl
  | step _ step ih => rw [step.settings, ih]

end Course

end Outbox
