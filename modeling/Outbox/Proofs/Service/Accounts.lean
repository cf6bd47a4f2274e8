import Outbox.Proofs.Service.Settled
import Outbox.Proofs.Sink.Loop

/-!
# The files of a service

All that a service does with its sink is a course of the sink, whatever happens around it, as long
as its loop does not break off (`Service.OnCourse.use`). So what holds on every course of a sink
holds of a sink in its service, above all that its files are accounted for
(`Service.accounts_of_uses`).
-/

set_option autoImplicit false

namespace Outbox

namespace Service

def anyhow (_ _ : World) : Prop :=
  True

theorem allows_anyhow (c₀ : Course) : Course.Allows anyhow anyhow c₀ :=
  ⟨fun _ => trivial, fun _ _ _ => trivial, fun _ _ _ => trivial⟩

/-- A service in its world whose sink is on a course, unless the loop has broken off. -/
def OnCourse (c₀ : Course) (state : Service × World) : Prop :=
  Loop.OnCourse anyhow anyhow c₀ (state.1.loop, state.2)

variable {c₀ : Course} {s : Service} {w : World}

theorem OnCourse.tell (h : OnCourse c₀ (s, w)) (event : Event) : OnCourse c₀ (s, w.tell event) :=
  Loop.OnCourse.tell h (allows_anyhow c₀) event

theorem OnCourse.around (h : OnCourse c₀ (s, w)) (w' : World) : OnCourse c₀ (s, w') :=
  fun going =>
    have ⟨_, reached⟩ := h going
    ⟨_, .step reached (.outside _ w' trivial)⟩

theorem OnCourse.pump (h : OnCourse c₀ (s, w)) (rounds : Nat) :
    OnCourse c₀ (Service.pump rounds s w) := by
  induction rounds generalizing s w with
  | zero => exact h
  | succ rounds ih =>
    rw [Service.pump]
    generalize s.reader.run s.loop.records = after
    obtain ⟨reader, records⟩ := after
    have sent : Loop.OnCourse anyhow anyhow c₀ ({ s.loop with records }, w) := h
    dsimp only
    split
    · exact ih (sent.receiveAll (allows_anyhow c₀) _)
    · exact sent

theorem OnCourse.conclude (h : OnCourse c₀ (s, w)) : OnCourse c₀ (s.conclude w) := by
  rw [Service.conclude]
  split
  · exact h
  · dsimp only
    split
    · exact (h.tell _).tell _
    · exact h.tell _
  · exact h

theorem OnCourse.settle (h : OnCourse c₀ (s, w)) : OnCourse c₀ (s.settle w) := by
  have pumped := h.pump (s.reader.ready.length + 1)
  rw [Service.settle]
  generalize Service.pump (s.reader.ready.length + 1) s w = state at pumped
  obtain ⟨s', w'⟩ := state
  refine OnCourse.conclude ?_
  exact Loop.OnCourse.settle pumped (allows_anyhow c₀)

theorem OnCourse.passTo (h : OnCourse c₀ (s, w)) (target reports : Nat) :
    OnCourse c₀ (Service.passTo target reports s w) := by
  have atOnce {s : Service} {w : World} (h : OnCourse c₀ (s, w)) :
      OnCourse c₀ (Service.passTo target 0 s w) := by
    rw [Service.passTo]
    refine OnCourse.conclude ?_
    exact Loop.OnCourse.pass h (allows_anyhow c₀) _
  induction reports generalizing s w with
  | zero => exact atOnce h
  | succ reports ih =>
    rw [Service.passTo]
    split
    · next due _ =>
      split
      · have passed := Loop.OnCourse.pass h (allows_anyhow c₀) (due - w.now)
        generalize s.loop.pass (due - w.now) w = state at passed
        obtain ⟨l, w'⟩ := state
        refine ih ?_
        dsimp only
        split
        · exact Loop.OnCourse.tell passed (allows_anyhow c₀) _
        · exact passed
      · exact atOnce h
    · exact atOnce h

theorem OnCourse.use {before after : Service × World} (h : OnCourse c₀ before)
    (use : Use before after) : OnCourse c₀ after := by
  cases use with
  | feed s w bytes =>
    rw [feed]
    split
    · exact h
    · exact OnCourse.settle h
  | endInput s w =>
    rw [endInput]
    split
    · exact h
    · exact OnCourse.settle h
  | failInput s w cause =>
    rw [failInput]
    split
    · exact h
    · exact OnCourse.settle h
  | requestFlush s w =>
    rw [requestFlush]
    split
    · exact h
    · have requested := Loop.OnCourse.requestFlush h
      generalize s.loop.requestFlush = answer at requested
      obtain ⟨accepted, l⟩ := answer
      have told : OnCourse c₀ ({ s with loop := l }, w) := requested
      exact (told.around _).settle
  | requestShutdown s w =>
    rw [requestShutdown]
    split
    · exact h
    · refine OnCourse.settle (OnCourse.tell ?_ _)
      exact h
  | pass s w nanos => exact h.passTo _ _
  | around s w w' => exact h.around w'

theorem OnCourse.uses {before after : Service × World} (h : OnCourse c₀ before)
    (uses : Uses before after) : OnCourse c₀ after := by
  induction uses with
  | refl => exact h
  | tail _ use ih => exact ih.use use

theorem onCourse_of_start {c : Config} {w₀ : World} (start : start c w₀ = (.ok s, w)) :
    ∃ destination sink w₁,
      Sink.start c.bundle.settings (some destination) w₀ = (.ok sink, w₁) ∧
        OnCourse { sink, world := w₁, deeds := [] } (s, w) := by
  obtain ⟨sink, _, starts⟩ := starts_of_start start
  obtain ⟨destination, w₁, started, rfl⟩ := starts.started
  refine ⟨destination, sink, w₁, started, ?_⟩
  have allows := allows_anyhow { sink, world := w₁, deeds := [] }
  have begun : Course.OnCourse anyhow anyhow { sink, world := w₁, deeds := [] } sink w₁ :=
    ⟨[], .start⟩
  rw [OnCourse, starts.loop]
  exact Loop.onCourse_start (begun.tell allows _) allows _

/-- However a service has been used, the files of its sink are accounted for as long as its loop has
not broken off: those that waited when it started, and those that were rolled since. -/
theorem accounts_of_uses {c : Config} {w₀ : World} {after : Service × World}
    (start : start c w₀ = (.ok s, w)) (uses : Uses (s, w) after)
    (going : after.1.loop.crashed = false) :
    ∃ destination sink w₁ deeds,
      Sink.start c.bundle.settings (some destination) w₀ = (.ok sink, w₁) ∧
        Course.Accounts sink.pending { sink := after.1.loop.sink, world := after.2, deeds } := by
  obtain ⟨destination, sink, w₁, started, begun⟩ := onCourse_of_start start
  obtain ⟨deeds, accounts⟩ := Loop.OnCourse.accounts started (begun.uses uses) going
  exact ⟨destination, sink, w₁, deeds, started, accounts⟩

end Service

end Outbox
