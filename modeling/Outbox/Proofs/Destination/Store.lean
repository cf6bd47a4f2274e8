import Outbox.Destination.Basic
import Outbox.Proofs.Disk.Directories
import Outbox.Proofs.LiveFile.Operations

/-!
# Puts into a store

What a store has after a put, whether it keeps its objects in memory or in files. An object that is
kept in a file is written under a staging path, where no file was, and then moved to its own path.
So a put that fails leaves all files as they were, and one that succeeds takes away at most the file
that had the name of the object before.
-/

set_option autoImplicit false

namespace Outbox

namespace Shelf

/-! ### Staging -/

/-- A file has been made under a path, at a location where there was none. -/
structure Staged (d d' : Disk) (p : Path) (dir : Location) (name : Name) (id : Nat) : Prop where
  grows : d.Grows d'
  free : d.node? (dir ++ [name]) = none
  fresh : d.contents.length ≤ id
  goal : ∃ slash, d'.goal p = .ok (.entry dir name, slash)
  node : d'.node? (dir ++ [name]) = some (.file id)
  empty : d'.content id = []

namespace Staged

variable {d d' d'' : Disk} {p : Path} {dir : Location} {name : Name} {id : Nat}

theorem after (h : Staged d' d'' p dir name id) (grows : d.Grows d') :
    Staged d d'' p dir name id where
  grows := grows.trans h.grows
  free := by
    cases hnode : d.node? (dir ++ [name]) with
    | none => rfl
    | some node =>
      have hfree := h.free
      rw [grows.nodes hnode] at hfree
      exact absurd hfree (by simp)
  fresh := Nat.le_trans grows.length h.fresh
  goal := h.goal
  node := h.node
  empty := h.empty

theorem of_createNew {handle : Handle} (h : Disk.createNew p d = .ok (handle, d')) :
    ∃ dir name id, handle = .file id ∧ Staged d d' p dir name id := by
  rw [Disk.createNew] at h
  cases hspot : Disk.freeSpot p d with
  | error e => rw [hspot] at h; exact absurd h (by simp)
  | ok loc =>
    obtain ⟨dir, name, slash, rfl, hgoal, hfree, -⟩ := Disk.freeSpot_ok hspot
    simp only [hspot] at h
    split at h
    · exact absurd h (by simp)
    simp only [Except.ok.injEq, Prod.mk.injEq] at h
    obtain ⟨rfl, rfl⟩ := h
    have grows := Disk.grows_putNewFile (Disk.isDir_of_goal hgoal) (Disk.plain_of_goal hgoal) hfree
    obtain ⟨front, used, hsteps, hlast, hwalk, hused⟩ := Disk.steps_of_goal hgoal
    have hwalk' := hwalk.of_keeps grows.keeps
    refine ⟨dir, name, d.contents.length, rfl, grows, hfree, Nat.le_refl _,
      ⟨_, Disk.goal_of_walk (Disk.goal_ok hgoal).1 hsteps hlast hwalk' hused⟩, ?_, ?_⟩
    · rw [Disk.node?_putNewFile _ _ _ (by simp), if_pos rfl]
    · rw [Disk.content_putNewFile]
      simp [Disk.content]

end Staged

/-- The search for a free staging path makes files and directories at free places only. -/
theorem openStaged_grows (path : Path) (tries n : Nat) (w : World) :
    w.disk.Grows (openStaged path tries n w).2.disk ∧
      ∀ handle p, (openStaged path tries n w).1 = .ok (handle, p) →
        ∃ dir name id, handle = .file id ∧
          Staged w.disk (openStaged path tries n w).2.disk p dir name id := by
  induction tries generalizing n w with
  | zero => exact ⟨.refl _, fun _ _ h => absurd h (by simp [openStaged])⟩
  | succ tries ih =>
    -- what another try comes to
    have onward : ∀ (n : Nat) (w' : World), w.disk.Grows w'.disk →
        w.disk.Grows (openStaged path tries n w').2.disk ∧
          ∀ handle p, (openStaged path tries n w').1 = .ok (handle, p) →
            ∃ dir name id, handle = .file id ∧
              Staged w.disk (openStaged path tries n w').2.disk p dir name id := by
      intro n w' grows
      obtain ⟨hgrows, hstaged⟩ := ih n w'
      refine ⟨grows.trans hgrows, fun handle p h => ?_⟩
      obtain ⟨dir, name, id, hid, staged⟩ := hstaged handle p h
      exact ⟨dir, name, id, hid, staged.after grows⟩
    rw [openStaged]
    dsimp only
    split
    · next handle w' hcreate =>
      obtain ⟨faults, disk, hop, rfl⟩ := World.attempt_ok hcreate
      obtain ⟨dir, name, id, rfl, staged⟩ := Staged.of_createNew hop
      have staged := staged.after (Disk.grows_faults w.disk faults)
      refine ⟨staged.grows, fun handle p h => ?_⟩
      simp only [Except.ok.injEq, Prod.mk.injEq] at h
      exact ⟨dir, name, id, h.1.symm, h.2 ▸ staged⟩
    · next w' hcreate =>
      obtain ⟨faults, rfl⟩ := World.attempt_error hcreate
      exact onward (n + 1) _ (Disk.grows_faults w.disk faults)
    · next w' hcreate =>
      obtain ⟨faults, rfl⟩ := World.attempt_error hcreate
      have grows := (Disk.grows_faults w.disk faults).trans
        (Disk.mkdirs_grows { w.disk with faults } (((stagedPath path n).parent?).getD ⟨[]⟩))
      split
      · next disk hmkdirs =>
        rw [hmkdirs] at grows
        exact onward n _ grows
      · next e disk hmkdirs =>
        rw [hmkdirs] at grows
        exact ⟨grows, fun _ _ h => absurd h (by simp)⟩
    · next e w' _ _ hcreate =>
      obtain ⟨faults, rfl⟩ := World.attempt_error hcreate
      exact ⟨Disk.grows_faults w.disk faults, fun _ _ h => absurd h (by simp)⟩

/-! ### Drafts -/

/-- A file has been made beside all that there were, which are as they were. -/
structure Draft (d d' : Disk) (p : Path) (dir : Location) (name : Name) (id : Nat) : Prop where
  sound : d'.Sound
  files : ∀ {loc : Location} {id' : Nat}, d.node? loc = some (.file id') →
    loc ≠ dir ++ [name] ∧ d'.node? loc = some (.file id') ∧ d'.content id' = d.content id'
  fresh : d.contents.length ≤ id
  goal : ∃ slash, d'.goal p = .ok (.entry dir name, slash)
  node : d'.node? (dir ++ [name]) = some (.file id)

/-- What a put under a path comes to: it takes away at most a file of that name, and only if it
succeeds. -/
structure Puts (path : Path) (bytes : Bytes) (d d' : Disk) (result : Except StoreError Unit) :
    Prop where
  kept : ∀ {loc : Location} {id : Nat}, d.node? loc = some (.file id) →
    (d'.node? loc = some (.file id) ∧ d'.content id = d.content id) ∨
      (result = .ok () ∧ ∃ dir name, loc = dir ++ [name] ∧ path.fileName? = some name)
  placed : result = .ok () → ∃ dir name id, path.fileName? = some name ∧ d.contents.length ≤ id ∧
    d'.node? (dir ++ [name]) = some (.file id) ∧ d'.content id = bytes

theorem Puts.of_grows {path : Path} {bytes : Bytes} {d d' : Disk} {e : StoreError}
    (sound : d.Sound) (grows : d.Grows d') : Puts path bytes d d' (.error e) where
  kept := fun hnode => .inl ⟨grows.nodes hnode, grows.contents (sound.numbered hnode)⟩
  placed := fun h => absurd h (by simp)

section Draft

variable {d d' : Disk} {p path : Path} {dir : Location} {name : Name} {id : Nat} {bytes : Bytes}

theorem Staged.draft (h : Staged d d' p dir name id) (sound : d.Sound) :
    Draft d d' p dir name id where
  sound := h.grows.sound sound
  files := by
    intro loc id' hnode
    refine ⟨?_, h.grows.nodes hnode, h.grows.contents (sound.numbered hnode)⟩
    rintro rfl
    rw [h.free] at hnode
    exact absurd hnode (by simp)
  fresh := h.fresh
  goal := h.goal
  node := h.node

theorem Draft.withFaults (h : Draft d d' p dir name id) (faults : List (Option OsError)) :
    Draft d { d' with faults } p dir name id :=
  ⟨h.sound.withFaults faults, h.files, h.fresh, by simpa using h.goal, h.node⟩

theorem Draft.setContent (h : Draft d d' p dir name id) (sound : d.Sound) (bytes : Bytes) :
    Draft d (d'.setContent id bytes) p dir name id where
  sound := h.sound.setContent id bytes
  files := by
    intro loc id' hnode
    obtain ⟨hne, hnode', hcontent⟩ := h.files hnode
    refine ⟨hne, hnode', ?_⟩
    have hid : id' ≠ id := by
      have := sound.numbered hnode
      have := h.fresh
      omega
    rw [Disk.content_setContent _ _ _ _ (h.sound.numbered h.node), if_neg hid, hcontent]
  fresh := h.fresh
  goal := by
    obtain ⟨slash, hgoal⟩ := h.goal
    obtain ⟨front, used, hsteps, hlast, hwalk, hused⟩ := Disk.steps_of_goal hgoal
    have keeps : d'.Keeps (d'.setContent id bytes) := ⟨rfl, fun hloc => hloc, fun hloc => hloc⟩
    exact ⟨_, Disk.goal_of_walk (Disk.goal_ok hgoal).1 hsteps hlast (hwalk.of_keeps keeps) hused⟩
  node := h.node

theorem Draft.remove {w : World} {e : StoreError} (h : Draft d w.disk p dir name id) :
    Puts path bytes d (w.attempt (Disk.remove p)).2.disk (.error e) := by
  refine ⟨fun {loc id'} hnode => .inl ?_, fun hok => absurd hok (by simp)⟩
  obtain ⟨hne, hnode', hcontent⟩ := h.files hnode
  cases hremove : w.attempt (Disk.remove p) with
  | mk result w' =>
    cases result with
    | error e =>
      obtain ⟨faults, rfl⟩ := World.attempt_error hremove
      exact ⟨hnode', hcontent⟩
    | ok =>
      obtain ⟨faults, disk, hop, rfl⟩ := World.attempt_ok hremove
      obtain ⟨dir', name', node, hgoal, -, -, rfl⟩ := Disk.remove_ok hop
      obtain ⟨slash, hdraft⟩ := h.goal
      rw [Disk.goal_faults, hdraft, Except.ok.injEq, Prod.mk.injEq, Goal.entry.injEq] at hgoal
      obtain ⟨⟨rfl, rfl⟩, -⟩ := hgoal
      refine ⟨?_, hcontent⟩
      rw [Disk.node?_take _ _ _ (by simp), if_neg hne]
      exact hnode'

/-- A draft that gets its name takes away only what had it. -/
theorem Draft.rename (h : Draft d d' p dir name id) (hbytes : d'.content id = bytes)
    {d'' : Disk} (hrename : Disk.rename p path d' = .ok ((), d'')) :
    Puts path bytes d d'' (.ok ()) := by
  obtain ⟨dir₁, name₁, slash, node, dir', name', slash', hgoal, hnode, hgoal', -, hmove⟩ :=
    Disk.rename_ok hrename
  obtain ⟨slash₀, hdraft⟩ := h.goal
  rw [hdraft, Except.ok.injEq, Prod.mk.injEq, Goal.entry.injEq] at hgoal
  obtain ⟨⟨rfl, rfl⟩, rfl⟩ := hgoal
  obtain rfl : node = .file id := Option.some.inj ((Disk.nodeIn?_ok hnode).1.trans h.node)
  obtain ⟨hslash, hcase⟩ := Disk.moveOnto_ok (by simp) hmove
  rw [Bool.or_eq_false_iff] at hslash
  rw [hslash.2] at hgoal'
  have only := (Disk.only_of_goal hgoal').2
  have hname : path.fileName? = some name' := only.endsIn.fileName? only.plain
  rcases hcase with ⟨heq, rfl⟩ | ⟨hne, -, rfl⟩
  · refine ⟨fun hfile => .inl ?_, fun _ => ⟨dir', name', id, hname, h.fresh, ?_, hbytes⟩⟩
    · exact (h.files hfile).2
    · rw [← heq]
      exact h.node
  · have lookup := h.sound.node?_move h.node (by simp) hne (by simp)
    refine ⟨fun {loc id'} hfile => ?_, fun _ => ⟨dir', name', id, hname, h.fresh, ?_, hbytes⟩⟩
    · obtain ⟨hloc, hnode', hcontent⟩ := h.files hfile
      by_cases hnew : loc = dir' ++ [name']
      · exact .inr ⟨rfl, dir', name', hnew, hname⟩
      · refine .inl ⟨?_, hcontent⟩
        rw [lookup, if_neg hnew, if_neg hloc]
        exact hnode'
    · rw [lookup, if_pos rfl]

end Draft

theorem putFile_puts (key : ObjectKey) (bytes : Bytes) {w : World} (sound : w.disk.Sound) :
    Puts (pathOf key) bytes w.disk (putFile key bytes w).2.disk (putFile key bytes w).1 := by
  obtain ⟨hgrows, hstaged⟩ := openStaged_grows (pathOf key) (w.disk.nodes.length + 2) 1 w
  rw [putFile]
  split
  · next e w₁ hopen =>
    rw [hopen] at hgrows
    exact .of_grows sound hgrows
  next handle p w₁ hopen =>
  rw [hopen] at hstaged
  obtain ⟨dir, name, id, rfl, staged⟩ := hstaged handle p rfl
  have draft : Draft w.disk w₁.disk p dir name id := staged.draft sound
  split
  · next e w₂ hwrite =>
    obtain ⟨faults, rfl⟩ := World.attempt_error hwrite
    exact Draft.remove (draft.withFaults faults)
  next w₂ hwrite =>
  obtain ⟨faults, disk, hop, rfl⟩ := World.attempt_ok hwrite
  have hempty : Disk.content { w₁.disk with faults } id = [] := staged.empty
  simp only [Disk.write, hempty, List.nil_append, Except.ok.injEq, Prod.mk.injEq, true_and] at hop
  subst hop
  have written := (draft.withFaults faults).setContent sound bytes
  have hbytes := Disk.content_setContent { w₁.disk with faults } id id bytes
    (draft.sound.numbered draft.node)
  rw [if_pos rfl] at hbytes
  split
  · next e w₃ hrename =>
    obtain ⟨faults', rfl⟩ := World.attempt_error hrename
    exact Draft.remove (written.withFaults faults')
  · next w₃ hrename =>
    obtain ⟨faults', disk, hop, rfl⟩ := World.attempt_ok hrename
    exact (written.withFaults faults').rename hbytes hop

end Shelf

end Outbox
