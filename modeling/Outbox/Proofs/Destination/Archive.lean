import Outbox.Upload
import Outbox.Proofs.Disk.Changes
import Outbox.Proofs.Disk.Directories
import Outbox.Proofs.LiveFile.Operations

/-!
# Deliveries to an archive

A delivery makes its copy under a name of its own and gives it the final name when it is complete.
`Copied` says what the directory of the archive holds at each stage, and every turn leads from one
stage to the next (`turn_proceeds`). A turn changes nothing but the two names, and the final one
only when the delivery succeeds.
-/

set_option autoImplicit false

namespace Outbox.Archive

/-- The name of a copy that is being made. -/
def unfinished (name : Name) : Name :=
  name ++ ".partial".toList

theorem unfinished_ne (name : Name) : unfinished name ≠ name := by
  rw [unfinished]
  simp

theorem unfinished_plain {name : Name} (plain : Plain name) : Plain (unfinished name) := by
  have hlong : 8 ≤ (unfinished name).length := by
    rw [unfinished, List.length_append]
    exact Nat.le_add_left _ _
  refine ⟨?_, ?_, ?_, ?_⟩
  · intro h
    rw [h] at hlong
    exact absurd hlong (by decide)
  · rw [unfinished, List.mem_append, not_or]
    exact ⟨plain.no_slash, by decide⟩
  · intro h
    rw [h] at hlong
    exact absurd hlong (by decide)
  · intro h
    rw [h] at hlong
    exact absurd hlong (by decide)

/-- Names that are joined to a path are looked up in one directory, if anywhere. -/
def Leads (d : Disk) (p : Path) (dest : Location) : Prop :=
  ∀ name, Plain name → d.Only (p.join name) dest name

theorem leads_of_dirOf? {d : Disk} {p : Path} {dest : Location} (h : d.dirOf? p = some dest) :
    Leads d p dest :=
  fun _ plain => Disk.only_join h plain

theorem Leads.of_narrows {d d' : Disk} {p : Path} {dest : Location} (leads : Leads d p dest)
    (narrows : d.Narrows d') : Leads d' p dest :=
  fun name plain => (leads name plain).of_narrows narrows

theorem configure_ok {a a' : Archive} {connection : Connection} {w w' : World}
    (h : a.configure connection w = (.ok (), a', w')) :
    a'.directory.chars ≠ [] ∧ w.disk.Grows w'.disk ∧
      ∃ dest, w'.disk.dirOf? a'.directory = some dest := by
  rw [configure] at h
  dsimp only at h
  split at h
  · exact absurd h (by simp)
  · next hne =>
    split at h
    · next disk hmkdirs =>
      simp only [Prod.mk.injEq, true_and] at h
      obtain ⟨rfl, rfl⟩ := h
      have hgrows := w.disk.mkdirs_grows ⟨Text.strip connection.rest⟩
      rw [hmkdirs] at hgrows
      exact ⟨hne, hgrows, Disk.mkdirs_ok hmkdirs hne⟩
    · exact absurd h (by simp)

theorem directory_of_configure {a a' : Archive} {connection : Connection} {w w' : World}
    (h : a.configure connection w = (.ok (), a', w')) :
    a'.directory = ⟨Text.strip connection.rest⟩ := by
  rw [configure] at h
  dsimp only at h
  split at h
  · exact absurd h (by simp)
  · split at h
    · simp only [Prod.mk.injEq, true_and] at h
      rw [← h.1]
    · exact absurd h (by simp)

/-! ### Stages -/

/-- What the directory of an archive holds of a file of that content, at each stage. -/
def Copied (dest : Location) (name : Name) (bytes : Bytes) (d : Disk) : Phase → Prop
  | .delivering _ (.copying (.file k)) =>
    d.node? (dest ++ [unfinished name]) = some (.file k) ∧ d.content k = []
  | .delivering _ (.syncing (.file k) _) =>
    d.node? (dest ++ [unfinished name]) = some (.file k) ∧ d.content k = bytes
  | .delivering _ (.syncing .dir _) => False
  | .delivering _ (.naming _) => d.fileAt? (dest ++ [unfinished name]) = some bytes
  | .removing => d.fileAt? (dest ++ [name]) = some bytes
  | _ => True

/-- A delivery goes on for as long as the copy is left alone, and so is the complete one. -/
theorem Copied.of_same {dest : Location} {name : Name} {bytes : Bytes} {d d' : Disk} {phase : Phase}
    (h : Copied dest name bytes d phase)
    (node : d'.node? (dest ++ [unfinished name]) = d.node? (dest ++ [unfinished name]))
    (content : ∀ {id : Nat}, d.node? (dest ++ [unfinished name]) = some (.file id) →
      d'.content id = d.content id)
    (final : d'.fileAt? (dest ++ [name]) = d.fileAt? (dest ++ [name])) :
    Copied dest name bytes d' phase := by
  unfold Copied at h ⊢
  split
  · exact ⟨node.trans h.1, (content h.1).trans h.2⟩
  · exact ⟨node.trans h.1, (content h.1).trans h.2⟩
  · exact h
  · obtain ⟨id, hnode, hcontent⟩ := Disk.node_of_fileAt? h
    rw [Disk.fileAt?_of_node (node.trans hnode), content hnode, hcontent]
  · exact final.trans h
  · trivial

theorem Copied.of_alters {places : Location → Prop} {dest : Location} {name : Name} {bytes : Bytes}
    {d d' : Disk} {phase : Phase} (h : Copied dest name bytes d phase)
    (alters : Disk.Alters places d d') (hpartial : ¬ places (dest ++ [unfinished name]))
    (hfinal : ¬ places (dest ++ [name])) : Copied dest name bytes d' phase :=
  h.of_same (alters.nodes hpartial) (alters.contents hpartial) (alters.fileAt? hfinal)

/-- What a turn of a delivery comes to. -/
structure Proceeds (a : Archive) (dest : Location) (name : Name) (bytes : Bytes) (source : Handle)
    (w : World) (result : Turn × Archive × World) : Prop where
  directory : result.2.1.directory = a.directory
  alters : Disk.Alters (fun loc => loc = dest ++ [unfinished name] ∨
    (loc = dest ++ [name] ∧ result.1 = .ended (.ok ()))) w.disk result.2.2.disk
  copied : Copied dest name bytes result.2.2.disk (Upload.afterTurn source result.1)

section Turn

variable {a : Archive} {dest : Location} {name : Name} {bytes : Bytes} {path : Path}
  {source : Handle} {w w' : World}

theorem proceeds_refuse {e : UploadError}
    (alters : Disk.Alters (· = dest ++ [unfinished name]) w.disk w'.disk) :
    Proceeds a dest name bytes source w (a.refuse e w') :=
  ⟨rfl, alters.mono fun _ => .inl, trivial⟩

theorem proceeds_next {stage : Delivery}
    (alters : Disk.Alters (· = dest ++ [unfinished name]) w.disk w'.disk)
    (copied : Copied dest name bytes w'.disk (.delivering source stage)) :
    Proceeds a dest name bytes source w (.next stage, a, w') :=
  ⟨rfl, alters.mono fun _ => .inl, copied⟩

theorem create_proceeds {out : Handle} {d d' : Disk} {p : Path}
    (only : d.Only p dest (unfinished name)) (sound : d.Sound)
    (linkless : d.Linkless (dest ++ [unfinished name])) (h : Disk.create p d = .ok (out, d')) :
    Disk.Alters (· = dest ++ [unfinished name]) d d' ∧
      Copied dest name bytes d' (.delivering source (.copying out)) := by
  rw [Disk.create] at h
  cases hopen : Disk.openForWriting p d with
  | error e => rw [hopen] at h; exact absurd h (by simp)
  | ok result =>
    obtain ⟨handle, d₁⟩ := result
    rw [hopen] at h
    rcases only.openForWriting linkless hopen with
      ⟨node, hnode, hwritable, rfl⟩ | ⟨hfree, hdir, rfl, rfl⟩
    · cases node with
      | file k =>
        simp only [Disk.writable, Except.ok.injEq] at hwritable
        subst hwritable
        simp only [Except.ok.injEq, Prod.mk.injEq] at h
        obtain ⟨rfl, rfl⟩ := h
        refine ⟨Disk.alters_setContent sound hnode [], hnode, ?_⟩
        rw [Disk.content_setContent _ _ _ _ (sound.numbered hnode), if_pos rfl]
      | full =>
        simp only [Disk.writable, Except.ok.injEq] at hwritable
        subst hwritable
        simp only [Except.ok.injEq, Prod.mk.injEq] at h
        obtain ⟨rfl, rfl⟩ := h
        exact ⟨Disk.alters_faults sound _ d₁.faults, trivial⟩
      | dir => exact absurd hwritable (by simp [Disk.writable])
      | link target => exact absurd hwritable (by simp [Disk.writable])
    · simp only [Except.ok.injEq, Prod.mk.injEq] at h
      obtain ⟨rfl, rfl⟩ := h
      have hput := Disk.alters_putNewFile sound hdir only.plain hfree
      have hnode : (d.putNewFile (dest ++ [unfinished name])).1.node? (dest ++ [unfinished name])
          = some (.file d.contents.length) := by
        rw [Disk.node?_putNewFile _ _ _ (by simp), if_pos rfl]
      refine ⟨hput.trans (Disk.alters_setContent hput.sound hnode []), hnode, ?_⟩
      rw [Disk.content_setContent _ _ _ _ (hput.sound.numbered hnode), if_pos rfl]

theorem remove_alters {p : Path} (only : w.disk.Only p dest (unfinished name))
    (sound : w.disk.Sound) :
    Disk.Alters (· = dest ++ [unfinished name]) w.disk (w.attempt (Disk.remove p)).2.disk := by
  cases hremove : w.attempt (Disk.remove p) with
  | mk result w' =>
    cases result with
    | error e =>
      obtain ⟨faults, rfl⟩ := World.attempt_error hremove
      exact Disk.alters_faults sound _ faults
    | ok =>
      obtain ⟨faults, disk, hop, rfl⟩ := World.attempt_ok hremove
      obtain ⟨⟨node, hnode, hne⟩, rfl⟩ := (only.withFaults faults).remove hop
      exact (Disk.alters_take (sound.withFaults faults) hnode hne).of_faults

theorem copyContent_error {out : Handle} {id : Nat} {e : IoError}
    (h : copyContent (.file id) out w = (.error e, w')) :
    ∃ faults, w'.disk = { w.disk with faults } := by
  rw [copyContent] at h
  split at h
  · next e' w₁ hread =>
    obtain ⟨faults, rfl⟩ := World.attempt_error hread
    simp only [Prod.mk.injEq] at h
    exact ⟨faults, by rw [← h.2]⟩
  · next content w₁ hread =>
    obtain ⟨faults, disk, hop, rfl⟩ := World.attempt_ok hread
    simp only [Disk.read, Except.ok.injEq, Prod.mk.injEq] at hop
    obtain ⟨-, rfl⟩ := hop
    split at h
    · next e' w₂ hwrite =>
      obtain ⟨faults', rfl⟩ := World.attempt_error hwrite
      simp only [Prod.mk.injEq] at h
      exact ⟨faults', by rw [← h.2]⟩
    · exact absurd h (by simp)

theorem copyContent_ok {out : Handle} {id n : Nat}
    (h : copyContent (.file id) out w = (.ok n, w')) :
    ∃ faults, Disk.write out (w.disk.content id) { w.disk with faults } = .ok ((), w'.disk) := by
  rw [copyContent] at h
  split at h
  · exact absurd h (by simp)
  · next content w₁ hread =>
    obtain ⟨faults, disk, hop, rfl⟩ := World.attempt_ok hread
    simp only [Disk.read, Except.ok.injEq, Prod.mk.injEq] at hop
    obtain ⟨rfl, rfl⟩ := hop
    split at h
    · exact absurd h (by simp)
    · next w₂ hwrite =>
      obtain ⟨faults', disk, hop, rfl⟩ := World.attempt_ok hwrite
      simp only [Prod.mk.injEq] at h
      refine ⟨faults', ?_⟩
      rw [← h.2]
      exact hop

variable (sound : w.disk.Sound) (leads : Leads w.disk a.directory dest) (plain : Plain name)

include sound leads plain

theorem begun_proceeds (linkless : w.disk.Linkless (dest ++ [unfinished name]))
    (hname : path.fileName? = some name) :
    Proceeds a dest name bytes source w (a.turn path source .begun w) := by
  have only := leads _ (unfinished_plain plain)
  simp only [turn, uploadName, hname]
  cases hcreate : w.attempt (Disk.create (a.partialPath name)) with
  | mk result w' =>
    cases result with
    | error e =>
      obtain ⟨faults, rfl⟩ := World.attempt_error hcreate
      exact proceeds_refuse (Disk.alters_faults sound _ faults)
    | ok out =>
      obtain ⟨faults, disk, hop, rfl⟩ := World.attempt_ok hcreate
      obtain ⟨alters, copied⟩ :=
        create_proceeds (only.withFaults faults) (sound.withFaults faults) linkless hop
      exact proceeds_next alters.of_faults copied

theorem copying_proceeds {out : Handle} {id : Nat} (hname : path.fileName? = some name)
    (hsource : source = .file id) (hbytes : w.disk.content id = bytes)
    (copied : Copied dest name bytes w.disk (.delivering source (.copying out))) :
    Proceeds a dest name bytes source w (a.turn path source (.copying out) w) := by
  have only := leads _ (unfinished_plain plain)
  subst hsource
  simp only [turn, uploadName, hname]
  cases hcopy : copyContent (.file id) out w with
  | mk result w' =>
    cases result with
    | error e =>
      obtain ⟨faults, hdisk⟩ := copyContent_error hcopy
      have only' : w'.disk.Only (a.partialPath name) dest (unfinished name) :=
        hdisk ▸ only.withFaults faults
      have sound' : w'.disk.Sound := hdisk ▸ sound.withFaults faults
      have hfaults : Disk.Alters (· = dest ++ [unfinished name]) w.disk w'.disk :=
        hdisk ▸ Disk.alters_faults sound _ faults
      exact proceeds_refuse (hfaults.trans (remove_alters only' sound'))
    | ok n =>
      obtain ⟨faults, hwrite⟩ := copyContent_ok hcopy
      have sound' := sound.withFaults faults
      cases out with
      | dir => exact absurd hwrite (by simp [Disk.write])
      | full =>
        simp only [Disk.write] at hwrite
        split at hwrite
        · simp only [Except.ok.injEq, Prod.mk.injEq, true_and] at hwrite
          exact proceeds_next (hwrite ▸ Disk.alters_faults sound _ faults) trivial
        · exact absurd hwrite (by simp)
      | file k =>
        obtain ⟨hnode, hempty⟩ := copied
        simp only [Disk.write, Except.ok.injEq, Prod.mk.injEq, true_and] at hwrite
        have hwritten : Disk.content { w.disk with faults } k ++ w.disk.content id = bytes := by
          rw [Disk.content_faults, hempty, List.nil_append, hbytes]
        rw [hwritten] at hwrite
        have hset := Disk.alters_setContent sound' hnode bytes
        have hcontent := Disk.content_setContent { w.disk with faults } k k bytes
          (sound.numbered hnode)
        rw [if_pos rfl] at hcontent
        refine proceeds_next (hwrite ▸ hset.of_faults) ⟨?_, ?_⟩
        · rw [← hwrite]
          exact hnode
        · rw [← hwrite]
          exact hcontent

omit leads plain in
theorem syncing_proceeds {out : Handle} {n : Nat} (hname : path.fileName? = some name)
    (copied : Copied dest name bytes w.disk (.delivering source (.syncing out n))) :
    Proceeds a dest name bytes source w (a.turn path source (.syncing out n) w) := by
  simp only [turn, uploadName, hname]
  cases hsync : w.attempt (Disk.sync out) with
  | mk result w' =>
    cases result with
    | error e =>
      obtain ⟨faults, rfl⟩ := World.attempt_error hsync
      exact proceeds_refuse (Disk.alters_faults sound _ faults)
    | ok =>
      obtain ⟨faults, disk, hop, rfl⟩ := World.attempt_ok hsync
      cases out with
      | dir => exact copied.elim
      | full => exact absurd hop (by simp [Disk.sync])
      | file k =>
        simp only [Disk.sync, Except.ok.injEq, Prod.mk.injEq, true_and] at hop
        subst hop
        obtain ⟨hnode, hbytes⟩ := copied
        refine proceeds_next (Disk.alters_faults sound _ faults) ?_
        change Disk.fileAt? { w.disk with faults } (dest ++ [unfinished name]) = some bytes
        rw [Disk.fileAt?_of_node (d := { w.disk with faults }) hnode]
        exact congrArg some hbytes

/-- A copy that is renamed leaves its own name. -/
theorem renamed {k : Nat} (hnode : w.disk.node? (dest ++ [unfinished name]) = some (.file k))
    (h : w.attempt (Disk.rename (a.partialPath name) (a.finalPath name)) = (.ok (), w')) :
    Disk.Alters (fun loc => loc = dest ++ [unfinished name] ∨ loc = dest ++ [name]) w.disk w'.disk ∧
      w'.disk.node? (dest ++ [name]) = some (.file k) ∧
      w'.disk.node? (dest ++ [unfinished name]) = none ∧
      w'.disk.content k = w.disk.content k := by
  have only := leads _ (unfinished_plain plain)
  obtain ⟨faults, disk, hop, rfl⟩ := World.attempt_ok h
  obtain ⟨-, hgoal, -, hfinal, rfl⟩ := (only.withFaults faults).rename
    ((leads name plain).withFaults faults) (by simp [hnode]) (unfinished_ne name) hop
  have hdir := Disk.isDir_of_goal hgoal
  have hne : dest ++ [unfinished name] ≠ dest ++ [name] := by
    simpa using unfinished_ne name
  have sound' := sound.withFaults faults
  have lookup := sound'.node?_move hnode (by simp) hne (by simp)
  refine ⟨(Disk.alters_move sound' hnode hdir plain hfinal hne).of_faults, ?_, ?_, rfl⟩
  · rw [lookup, if_pos rfl]
  · rw [lookup, if_neg hne, if_pos rfl]

theorem naming_proceeds {n : Nat} (hname : path.fileName? = some name)
    (copied : Copied dest name bytes w.disk (.delivering source (.naming n))) :
    Proceeds a dest name bytes source w (a.turn path source (.naming n) w) := by
  have hfile : w.disk.fileAt? (dest ++ [unfinished name]) = some bytes := copied
  obtain ⟨k, hnode, hbytes⟩ := Disk.node_of_fileAt? hfile
  simp only [turn, uploadName, hname]
  cases hrename : w.attempt (Disk.rename (a.partialPath name) (a.finalPath name)) with
  | mk result w' =>
    cases result with
    | error e =>
      obtain ⟨faults, rfl⟩ := World.attempt_error hrename
      exact proceeds_refuse (Disk.alters_faults sound _ faults)
    | ok =>
      obtain ⟨alters, hmoved, -, hcontent⟩ := renamed sound leads plain hnode hrename
      refine ⟨rfl, alters.mono ?_, ?_⟩
      · rintro loc (rfl | rfl)
        · exact .inl rfl
        · exact .inr ⟨rfl, rfl⟩
      · change Disk.fileAt? _ (dest ++ [name]) = some bytes
        rw [Disk.fileAt?_of_node hmoved, hcontent, hbytes]

/-- Every turn of a delivery leads to the next stage. -/
theorem turn_proceeds {stage : Delivery} {id : Nat} (hname : path.fileName? = some name)
    (linkless : w.disk.Linkless (dest ++ [unfinished name]))
    (hsource : source = .file id) (hbytes : w.disk.content id = bytes)
    (copied : Copied dest name bytes w.disk (.delivering source stage)) :
    Proceeds a dest name bytes source w (a.turn path source stage w) := by
  cases stage with
  | begun => exact begun_proceeds sound leads plain linkless hname
  | copying out => exact copying_proceeds sound leads plain hname hsource hbytes copied
  | syncing out n => exact syncing_proceeds sound hname copied
  | naming n => exact naming_proceeds sound leads plain hname copied
  | held =>
    simp only [turn, uploadName, hname]
    exact proceeds_next (Disk.alters_faults sound _ w.disk.faults) trivial

end Turn

/-! ### An upload by itself -/

/-- Where the content of a file is while the file is uploaded, and once that has succeeded. -/
def Sourced (dir dest : Location) (name : Name) (bytes : Bytes) (d : Disk) : Phase → Prop
  | .opening => d.fileAt? (dir ++ [name]) = some bytes
  | .delivering source _ => ∃ id, source = .file id ∧ d.node? (dir ++ [name]) = some (.file id) ∧
    d.content id = bytes
  | .removing => True
  | .ended (.ok ()) => d.fileAt? (dest ++ [name]) = some bytes
  | .ended (.error _) => True

/-- An upload of a regular file to an archive whose directory is another one than that of the
file. -/
structure Alone (dir dest : Location) (name : Name) (bytes : Bytes) (u : Upload) (b : Destination)
    (w : World) : Prop where
  apart : dir ≠ dest
  sound : w.disk.Sound
  only : w.disk.Only u.path dir name
  archive : ∃ a, b = .archive a ∧ Leads w.disk a.directory dest
  linkless : w.disk.Linkless (dest ++ [unfinished name])
  source : Sourced dir dest name bytes w.disk u.phase
  copied : Copied dest name bytes w.disk u.phase

section Alone

variable {dir dest : Location} {name : Name} {bytes : Bytes} {u : Upload} {b : Destination}
  {w w' : World} {path : Path} {a : Archive} {phase phase' : Phase}

theorem Alone.fileName? (h : Alone dir dest name bytes u b w) : u.path.fileName? = some name :=
  h.only.endsIn.fileName? h.only.plain

theorem Alone.locations_ne (h : Alone dir dest name bytes u b w) (other other' : Name) :
    dir ++ [other] ≠ dest ++ [other'] := by
  intro heq
  exact h.apart (List.append_inj' heq rfl).1

theorem Alone.still (h : Alone dir dest name bytes { path, phase } (.archive a) w)
    (leads : Leads w.disk a.directory dest) (faults : List (Option OsError))
    (hdisk : w'.disk = { w.disk with faults }) (source : Sourced dir dest name bytes w.disk phase')
    (copied : Copied dest name bytes w.disk phase') :
    Alone dir dest name bytes { path, phase := phase' } (.archive a) w' := by
  have alters : Disk.Alters (fun _ => False) w.disk w'.disk :=
    hdisk ▸ Disk.alters_faults h.sound _ faults
  refine ⟨h.apart, alters.sound, h.only.of_narrows alters.narrows,
    ⟨a, rfl, leads.of_narrows alters.narrows⟩, alters.linkless h.linkless, ?_,
    copied.of_alters alters id id⟩
  dsimp only
  rw [hdisk]
  exact source

theorem Alone.deliver {source : Handle} {stage : Delivery}
    (h : Alone dir dest name bytes { path, phase := .delivering source stage } (.archive a) w)
    (leads : Leads w.disk a.directory dest) :
    Alone dir dest name bytes
      { path, phase := Upload.afterTurn source (a.turn path source stage w).1 }
      (.archive (a.turn path source stage w).2.1) (a.turn path source stage w).2.2 := by
  obtain ⟨id, hid, hnode, hbytes⟩ := h.source
  have proceeds :=
    turn_proceeds h.sound leads h.only.plain h.fileName? h.linkless hid hbytes h.copied
  cases hturn : a.turn path source stage w with
  | mk turn after =>
    obtain ⟨a', w'⟩ := after
    rw [hturn] at proceeds
    have haway : ¬ (dir ++ [name] = dest ++ [unfinished name] ∨
        (dir ++ [name] = dest ++ [name] ∧ turn = .ended (.ok ()))) := by
      rintro (heq | ⟨heq, -⟩)
      · exact h.locations_ne _ _ heq
      · exact h.locations_ne _ _ heq
    have hdirectory : a'.directory = a.directory := proceeds.directory
    refine ⟨h.apart, proceeds.alters.sound, h.only.of_narrows proceeds.alters.narrows,
      ⟨a', rfl, ?_⟩, proceeds.alters.linkless h.linkless, ?_, proceeds.copied⟩
    · rw [hdirectory]
      exact leads.of_narrows proceeds.alters.narrows
    · cases turn with
      | next stage =>
        exact ⟨id, hid, (proceeds.alters.nodes haway).trans hnode,
          (proceeds.alters.contents haway hnode).trans hbytes⟩
      | ended result => cases result <;> trivial

/-- Every turn of such an upload leads on to one. -/
theorem Alone.turn (h : Alone dir dest name bytes u b w) :
    Alone dir dest name bytes (u.turn b w).1 (u.turn b w).2.1 (u.turn b w).2.2 := by
  obtain ⟨path, phase⟩ := u
  obtain ⟨a, rfl, leads⟩ := h.archive
  cases phase with
  | opening =>
    obtain ⟨id, hnode, hbytes⟩ := Disk.node_of_fileAt? h.source
    rw [Upload.turn]
    cases hopen : w.attempt (Disk.openRead path) with
    | mk result w' =>
      cases result with
      | error e =>
        obtain ⟨faults, rfl⟩ := World.attempt_error hopen
        exact h.still leads faults rfl trivial trivial
      | ok source =>
        obtain ⟨faults, disk, hop, rfl⟩ := World.attempt_ok hopen
        obtain ⟨rfl, rfl⟩ := (h.only.withFaults faults).openRead_file hnode hop
        exact h.still leads faults rfl ⟨id, rfl, hnode, hbytes⟩ trivial
  | delivering source stage => exact h.deliver leads
  | removing =>
    rw [Upload.turn]
    cases hremove : w.attempt (Disk.remove path) with
    | mk result w' =>
      cases result with
      | error e =>
        obtain ⟨faults, rfl⟩ := World.attempt_error hremove
        exact h.still leads faults rfl h.copied trivial
      | ok =>
        obtain ⟨faults, disk, hop, rfl⟩ := World.attempt_ok hremove
        obtain ⟨⟨node, hnode, hne⟩, rfl⟩ := (h.only.withFaults faults).remove hop
        have alters := (Disk.alters_take (h.sound.withFaults faults) hnode hne).of_faults
        refine ⟨h.apart, alters.sound, h.only.of_narrows alters.narrows,
          ⟨a, rfl, leads.of_narrows alters.narrows⟩, alters.linkless h.linkless, ?_, trivial⟩
        exact (alters.fileAt? fun heq => h.locations_ne _ _ heq.symm).trans h.copied
  | ended result => exact h

theorem Alone.turns (h : Alone dir dest name bytes u b w) (n : Nat) :
    Alone dir dest name bytes (Upload.turns n u b w).1 (Upload.turns n u b w).2.1
      (Upload.turns n u b w).2.2 := by
  induction n generalizing u b w with
  | zero => exact h
  | succ n ih =>
    rw [Upload.turns]
    exact ih h.turn

/-- When such an upload ends with a success, the archive holds the file. -/
theorem Alone.run (h : Alone dir dest name bytes u b w)
    (hok : (u.run b w).1.result? = some (.ok ())) :
    (u.run b w).2.2.disk.fileAt? (dest ++ [name]) = some bytes := by
  have hrun := h.turns Upload.maxTurns
  rw [Upload.run] at hok ⊢
  have hsource := hrun.source
  rw [Upload.result?] at hok
  split at hok
  · next result hphase =>
    rw [Option.some.injEq] at hok
    rw [hphase, hok] at hsource
    exact hsource
  · exact absurd hok (by simp)

end Alone

end Outbox.Archive

namespace Outbox

theorem Follows.ne_unfinished {base name : Name} (h : Follows base name) (other : Name) :
    name ≠ Archive.unfinished other := by
  obtain ⟨tail, rfl, htail⟩ := h
  obtain ⟨c, hc, hdigit⟩ := htail.ends
  intro heq
  have hlast := congrArg List.getLast? heq
  have hpartial : (Archive.unfinished other).getLast? = some 'l' := by
    rw [Archive.unfinished, List.getLast?_append]
    rfl
  have hrolled : (base ++ '.' :: tail).getLast? = some c := by
    rw [List.getLast?_append, List.getLast?_cons, hc]
    rfl
  rw [hrolled, hpartial, Option.some.injEq] at hlast
  subst hlast
  exact absurd hdigit (by decide)

end Outbox
