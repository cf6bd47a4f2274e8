import Outbox.Disk.Tree
import Outbox.Sink.Start
import Outbox.Proofs.LiveFile.Operations

/-!
# Sinks that have been started

What has happened, call by call, when a sink has been started.
-/

set_option autoImplicit false

namespace Outbox

/-- A world at the start of its clocks, with nothing on its disk but a start directory. -/
def World.fresh (start : Name) : World :=
  { disk := .fresh start, wall := { seconds := 0, nanos := 0 }, now := 0, log := [] }

theorem World.fresh_sound : (World.fresh ['w']).disk.Sound :=
  Disk.fresh_sound ⟨by decide, by decide, by decide, by decide⟩ (by decide)

def Settings.bufferDir (settings : Settings) : Path :=
  (Connection.ofText settings.connection).localDir.getD Settings.defaultBufferDir

namespace Sink

variable {settings : Settings} {s : Sink} {w w' : World}

theorem start_ok {destination : Option Destination}
    (h : start settings destination w = (.ok s, w')) :
    ∃ b b' w₁ w₂, destination = some b ∧
      b.configure (Connection.ofText settings.connection) w = (.ok (), b', w₁) ∧
      prepareBuffer settings.bufferDir w₁ = (.ok (), w₂) ∧
      checkApart b' settings.bufferDir w₂ = .ok () ∧
      openLive settings settings.bufferDir b' w₂ = (.ok s, w') := by
  cases destination with
  | none => exact absurd h (by simp [start])
  | some b =>
    simp only [start] at h
    split at h
    · exact absurd h (by simp)
    · next b' w₁ hconfigure =>
      split at h
      · exact absurd h (by simp)
      · next w₂ hprepare =>
        split at h
        · exact absurd h (by simp)
        · next hcheck => exact ⟨b, b', w₁, w₂, rfl, hconfigure, hprepare, hcheck, h⟩

/-- Whether a sink has been given, and one that passes a check. -/
def passes (result : Except SinkError Sink × World) (check : Sink → World → Bool) : Bool :=
  match result with
  | (.ok s, w) => check s w
  | (.error _, _) => false

theorem exists_of_passes {result : Except SinkError Sink × World} {check : Sink → World → Bool}
    (h : passes result check = true) : ∃ s w, result = (.ok s, w) ∧ check s w = true := by
  obtain ⟨e | s, w⟩ := result
  · exact absurd h (by simp [passes])
  · exact ⟨s, w, rfl, h⟩

theorem openLive_ok {bufferDir : Path} {destination : Destination}
    (h : openLive settings bufferDir destination w = (.ok s, w')) :
    ∃ live w₁, LiveFile.openAt (bufferDir.join settings.baseName) w = (.ok live, w₁) ∧
      s = ((ofParts settings bufferDir destination live).queueLeftovers w₁).1 ∧
      w'.disk = ((ofParts settings bufferDir destination live).queueLeftovers w₁).2.disk := by
  rw [openLive] at h
  split at h
  · exact absurd h (by simp)
  · next live w₁ hopen =>
    simp only [Prod.mk.injEq, Except.ok.injEq] at h
    obtain ⟨rfl, rfl⟩ := h
    exact ⟨live, w₁, hopen, rfl, rfl⟩

theorem start_settings {destination : Option Destination}
    (h : start settings destination w = (.ok s, w')) : s.settings = settings := by
  obtain ⟨_, b', _, w₂, -, -, -, -, hopen⟩ := start_ok h
  obtain ⟨live, w₃, -, rfl, -⟩ := openLive_ok hopen
  rw [queueLeftovers]
  split <;> rfl

end Sink

end Outbox
