import Outbox.Proofs.Disk.Operations

/-!
# What a change leaves alone

Most operations change one or two entries and lead nowhere new. `Alters` says so of any two disks
and of the places where they may differ, so that what holds at all other places need not be looked
at operation by operation.
-/

set_option autoImplicit false

namespace Outbox.Disk

/-- Two disks that differ at some places at most, the second of which leads nowhere else. -/
structure Alters (places : Location → Prop) (d d' : Disk) : Prop where
  sound : d'.Sound
  narrows : d.Narrows d'
  nodes : ∀ {loc : Location}, ¬ places loc → d'.node? loc = d.node? loc
  contents : ∀ {loc : Location} {id : Nat}, ¬ places loc → d.node? loc = some (.file id) →
    d'.content id = d.content id

namespace Alters

variable {places : Location → Prop} {d d' : Disk} {loc : Location}

theorem fileAt? (h : Alters places d d') (hloc : ¬ places loc) : d'.fileAt? loc = d.fileAt? loc :=
  fileAt?_congr (h.nodes hloc) (h.contents hloc)

theorem mono {more : Location → Prop} (h : Alters places d d')
    (hmore : ∀ loc, places loc → more loc) : Alters more d d' where
  sound := h.sound
  narrows := h.narrows
  nodes := fun hloc => h.nodes fun hplace => hloc (hmore _ hplace)
  contents := fun hloc => h.contents fun hplace => hloc (hmore _ hplace)

theorem trans {d₁ d₂ d₃ : Disk} (h : Alters places d₁ d₂) (h' : Alters places d₂ d₃) :
    Alters places d₁ d₃ where
  sound := h'.sound
  narrows := h.narrows.trans h'.narrows
  nodes := fun hloc => (h'.nodes hloc).trans (h.nodes hloc)
  contents := by
    intro loc id hloc hnode
    rw [h'.contents hloc ((h.nodes hloc).trans hnode), h.contents hloc hnode]

theorem linkless (h : Alters places d d') (hlink : d.Linkless loc) : d'.Linkless loc :=
  fun target hnode => hlink target (h.narrows.links hnode)

/-- Faults that have been used up before or after a change. -/
theorem of_faults {faults : List (Option OsError)} (h : Alters places { d with faults } d') :
    Alters places d d' :=
  ⟨h.sound, (narrows_faults d faults).trans h.narrows, h.nodes, h.contents⟩

theorem withFaults (h : Alters places d d') (faults : List (Option OsError)) :
    Alters places d { d' with faults } :=
  ⟨h.sound.withFaults faults, h.narrows.trans (narrows_faults d' faults), h.nodes, h.contents⟩

end Alters

section Operations

variable {d : Disk} {dir : Location} {name : Name} {id : Nat}

theorem alters_faults (sound : d.Sound) (places : Location → Prop)
    (faults : List (Option OsError)) : Alters places d { d with faults } :=
  ⟨sound.withFaults faults, narrows_faults d faults, fun _ => rfl, fun _ _ => rfl⟩

theorem alters_setContent {place : Location} (sound : d.Sound)
    (hplace : d.node? place = some (.file id)) (bytes : Bytes) :
    Alters (· = place) d (d.setContent id bytes) where
  sound := sound.setContent id bytes
  narrows := narrows_setContent d id bytes
  nodes := fun _ => rfl
  contents := by
    intro loc id' hloc hnode
    have hne : id' ≠ id := by
      rintro rfl
      exact hloc (sound.single hnode hplace)
    rw [content_setContent d id id' bytes (sound.numbered hplace), if_neg hne]

theorem alters_putNewFile (sound : d.Sound) (hdir : d.node? dir = some .dir) (hname : Plain name)
    (hfree : d.node? (dir ++ [name]) = none) :
    Alters (· = dir ++ [name]) d (d.putNewFile (dir ++ [name])).1 where
  sound := sound.putNewFile hdir hname hfree
  narrows := narrows_putNewFile d _ (by simp)
  nodes := by
    intro loc hloc
    rw [node?_putNewFile _ _ _ (by simp), if_neg hloc]
  contents := fun _ _ => content_putNewFile d _ _

theorem alters_take {place : Location} {node : Node} (sound : d.Sound)
    (hplace : d.node? place = some node) (hnode : node ≠ .dir) :
    Alters (· = place) d (d.take place) where
  sound := sound.take hplace hnode
  narrows := narrows_take d (Sound.ne_nil hplace hnode)
  nodes := by
    intro loc hloc
    rw [node?_take _ _ _ (Sound.ne_nil hplace hnode), if_neg hloc]
  contents := fun _ _ => rfl

theorem alters_move {old : Location} (sound : d.Sound) (hold : d.node? old = some (.file id))
    (hdir : d.node? dir = some .dir) (hname : Plain name)
    (hnew : d.node? (dir ++ [name]) ≠ some .dir) (ne : old ≠ dir ++ [name]) :
    Alters (fun loc => loc = old ∨ loc = dir ++ [name]) d (d.move old (dir ++ [name])) where
  sound := sound.move hold (by simp) hdir hname hnew ne
  narrows := sound.narrows_move hold ne (by simp)
  nodes := by
    intro loc hloc
    rw [not_or] at hloc
    rw [sound.node?_move hold (by simp) ne (by simp), if_neg hloc.2, if_neg hloc.1]
  contents := fun _ _ => rfl

end Operations

end Outbox.Disk
