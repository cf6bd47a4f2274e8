import Outbox.Proofs.Sink.OwnFiles

/-!
# Starting again

A sink that starts in a buffer directory that another one has left changes no rolled file there, and
nothing that the live file holds, however far it gets (`start_spared`). If no operation of the disk
fails and the clock can be read, it does start, and it queues the rolled files (`start_calm`).
-/

set_option autoImplicit false

namespace Outbox

/-! ### Worlds without faults -/

namespace World

variable {α : Type} {operation : Disk → Except IoError (α × Disk)} {w w' : World}

theorem attempt_ok_calm {a : α} (calm : w.disk.faults = [])
    (h : w.attempt operation = (.ok a, w')) : operation w.disk = .ok (a, w'.disk) := by
  rw [attempt, Disk.attempt_calm calm] at h
  cases hop : operation w.disk with
  | error e => rw [hop] at h; exact absurd h (by simp)
  | ok result =>
    obtain ⟨a', d⟩ := result
    rw [hop] at h
    simp only [Prod.mk.injEq, Except.ok.injEq] at h
    obtain ⟨rfl, rfl⟩ := h
    rfl

theorem attempt_error_calm {e : IoError} (calm : w.disk.faults = [])
    (h : w.attempt operation = (.error e, w')) : operation w.disk = .error e := by
  rw [attempt, Disk.attempt_calm calm] at h
  cases hop : operation w.disk with
  | error e' =>
    rw [hop] at h
    simp only [Prod.mk.injEq, Except.error.injEq] at h
    rw [h.1]
  | ok result => rw [hop] at h; exact absurd h (by simp)

/-- An operation comes to what is said of its result, and fails only for a fault of the disk. -/
def Achieves (w : World) (operation : Disk → Except IoError (α × Disk)) (done : α → Disk → Prop) :
    Prop :=
  (∃ e faults, w.attempt operation = (.error e, { w with disk := { w.disk with faults } }) ∧
    w.disk.faults ≠ []) ∨
  ∃ a d, w.attempt operation = (.ok a, { w with disk := d }) ∧ done a d ∧
    (w.disk.faults = [] → d.faults = [])

theorem achieves_of_ok {done : α → Disk → Prop} (works : ∃ result, operation w.disk = .ok result)
    (does : ∀ {faults : List (Option OsError)} {a : α} {d : Disk},
      operation { w.disk with faults } = .ok (a, d) → done a d ∧ d.faults = faults) :
    w.Achieves operation done := by
  cases h : w.attempt operation with
  | mk result w₁ =>
  cases result with
  | error e =>
    obtain ⟨faults, rfl⟩ := attempt_error h
    refine .inl ⟨e, faults, h, fun calm => ?_⟩
    obtain ⟨result, hok⟩ := works
    have herror := attempt_error_calm calm h
    rw [hok] at herror
    exact absurd herror (by simp)
  | ok a =>
    obtain ⟨faults, d, hop, rfl⟩ := attempt_ok h
    refine .inr ⟨a, d, h, (does hop).1, fun calm => ?_⟩
    exact (does (attempt_ok_calm calm h)).2.trans calm

theorem achieves_length (w : World) (id : Nat) :
    w.Achieves (Disk.length (.file id)) fun size d =>
      size = (w.disk.content id).length ∧ ∃ faults, d = { w.disk with faults } := by
  refine achieves_of_ok ⟨_, rfl⟩ fun {faults size d} hop => ?_
  simp only [Disk.length, Except.ok.injEq, Prod.mk.injEq] at hop
  obtain ⟨hsize, rfl⟩ := hop
  exact ⟨⟨hsize.symm, faults, rfl⟩, rfl⟩

end World

/-- What a start leaves as it was: rolled files, and what the live file holds. -/
structure Spared (dir : Location) (base : Name) (d d' : Disk) : Prop where
  sound : d'.Sound
  tended : Tended dir base d d'
  files : ∀ {other : Name}, other ≠ base → other ≠ Sink.writeCheckName →
    d'.fileAt? (dir ++ [other]) = d.fileAt? (dir ++ [other])
  live : (d'.fileAt? (dir ++ [base])).getD [] = (d.fileAt? (dir ++ [base])).getD []

section Spared

variable {dir : Location} {base : Name} {d d' : Disk}

theorem spared_faults (sound : d.Sound) (faults : List (Option OsError)) :
    Spared dir base d { d with faults } :=
  ⟨sound.withFaults faults, tended_faults d faults, fun _ _ => rfl, rfl⟩

theorem Spared.trans {d₁ d₂ d₃ : Disk} (h : Spared dir base d₁ d₂) (h' : Spared dir base d₂ d₃) :
    Spared dir base d₁ d₃ where
  sound := h'.sound
  tended := h.tended.trans h'.tended
  files := fun ne ne' => (h'.files ne ne').trans (h.files ne ne')
  live := h'.live.trans h.live

theorem spared_check (overt : Overt base)
    (alters : Disk.Alters (· = dir ++ [Sink.writeCheckName]) d d')
    (filed : d.Filed (dir ++ [Sink.writeCheckName]))
    (filed' : d'.Filed (dir ++ [Sink.writeCheckName])) : Spared dir base d d' where
  sound := alters.sound
  tended := tended_of_alters_name alters (.inr (.inl rfl)) filed filed'
  files := fun _ ne => alters.fileAt? (by simpa using ne)
  live := by rw [alters.fileAt? (by simpa using overt.ne_check)]

theorem spared_live (alters : Disk.Alters (· = dir ++ [base]) d d') (filed : d.Filed (dir ++ [base]))
    (filed' : d'.Filed (dir ++ [base]))
    (same : (d'.fileAt? (dir ++ [base])).getD [] = (d.fileAt? (dir ++ [base])).getD []) :
    Spared dir base d d' where
  sound := alters.sound
  tended := tended_of_alters_name alters (.inl rfl) filed filed'
  files := fun ne _ => alters.fileAt? (by simpa using ne)
  live := same

end Spared

def Settings.rolledFiles (settings : Settings) (dir : Location) (d : Disk) : List Path :=
  ((d.inListingOrder (d.children dir)).filter (Leftovers.isRolled settings.baseName)).map
    fun entry => settings.bufferDir.join entry.1

/-- In a clean directory the rolled files are all files but the live file and the one that tries
the directory. -/
theorem Clean.mem_rolledFiles {settings : Settings} {dir : Location} {d : Disk} {q : Path}
    (clean : Clean dir settings.baseName d) (sound : d.Sound) (overt : Overt settings.baseName) :
    q ∈ settings.rolledFiles dir d ↔ ∃ other bytes, q = settings.bufferDir.join other ∧
      other ≠ settings.baseName ∧ other ≠ Sink.writeCheckName ∧
      d.fileAt? (dir ++ [other]) = some bytes := by
  rw [Settings.rolledFiles, List.mem_map]
  constructor
  · rintro ⟨entry, hmem, rfl⟩
    obtain ⟨hmem, hrolled⟩ := List.mem_filter.mp hmem
    have hmem := (d.inListingOrder_perm _).mem_iff.mp hmem
    obtain ⟨id, hnode, -, hfront, hne⟩ := Leftovers.node_of_isRolled sound hmem hrolled
    refine ⟨entry.1, _, rfl, hne.symm, fun heq => ?_, Disk.fileAt?_of_node hnode⟩
    exact overt.not_front (heq ▸ hfront)
  · rintro ⟨other, bytes, rfl, hne, hcheck, hfile⟩
    obtain ⟨id, hnode, -⟩ := Disk.node_of_fileAt? hfile
    have follows := (clean.files hnode).follows hne hcheck
    have hmem := Disk.mem_children_of_mem (Disk.mem_of_node? hnode (by simp))
    refine ⟨(other, .file id), List.mem_filter.mpr ⟨?_, ?_⟩, rfl⟩
    · exact (d.inListingOrder_perm _).mem_iff.mpr hmem
    · exact Leftovers.isRolled_iff.mpr ⟨⟨id, rfl⟩, follows.front, hne.symm⟩

/-- Without faults the files that an earlier run has left are found. -/
theorem Sink.queueLeftovers_calm {s : Sink} {w : World} {dir : Location}
    (calm : w.disk.faults = []) (entry : s.bufferDir.chars ≠ [])
    (leads : w.disk.dirOf? s.bufferDir = some dir) :
    (s.queueLeftovers w).1.pending
        = s.pending ++ ((w.disk.inListingOrder (w.disk.children dir)).filter
          (Leftovers.isRolled s.settings.baseName)).map (fun entry => s.bufferDir.join entry.1) ∧
      (s.queueLeftovers w).1.fileSize = s.fileSize ∧ (s.queueLeftovers w).2.disk = w.disk := by
  have hscan : w.attempt (Leftovers.scan s.bufferDir s.settings.baseName)
      = (.ok (((w.disk.inListingOrder (w.disk.children dir)).filter
          (Leftovers.isRolled s.settings.baseName)).map fun entry => s.bufferDir.join entry.1),
        w) := by
    rw [World.attempt, Disk.attempt_calm calm, Leftovers.scan, Disk.list,
      (Disk.dirOf?_of_ne_nil entry).mp leads]
  rw [Sink.queueLeftovers, hscan]
  refine ⟨rfl, rfl, ?_⟩
  dsimp only
  split <;> rfl

/-- Settings whose paths can be walked. -/
structure Settings.Named (settings : Settings) : Prop where
  entry : settings.bufferDir.chars ≠ []
  overt : Overt settings.baseName
  size : Utf8.size settings.baseName ≤ maxNameSize
  live : (settings.bufferDir.join settings.baseName).Valid
  check : (settings.bufferDir.join Sink.writeCheckName).Valid

/-- A path leads to a directory, and to another one. -/
def Disk.Elsewhere (d : Disk) (dir : Location) (p : Path) : Prop :=
  p.chars ≠ [] ∧ ∃ dest, d.dirOf? p = some dest ∧ dest ≠ dir

def Destination.directories (b : Destination) (connection : Connection) : List Path :=
  match b with
  | .archive _ => [⟨Text.strip connection.rest⟩]
  | .store _ => []
  | .scripted s => s.directory.toList

/-- A destination has nothing against a connection; an archive wants a directory. -/
def Destination.Accepts (b : Destination) (connection : Connection) : Prop :=
  match b with
  | .archive _ => True
  | .store s => (s.configure connection).1 = .ok ()
  | .scripted _ => Scripted.configure connection = .ok ()

def Settings.ways (settings : Settings) (b : Destination) : List Path :=
  settings.bufferDir :: b.directories (Connection.ofText settings.connection)

/-- A disk as a sink has left it. -/
structure Left (settings : Settings) (b : Destination) (dir : Location) (d : Disk) : Prop where
  sound : d.Sound
  leads : d.dirOf? settings.bufferDir = some dir
  clean : Clean dir settings.baseName d
  accepts : b.Accepts (Connection.ofText settings.connection)
  elsewhere : ∀ p ∈ b.directories (Connection.ofText settings.connection), d.Elsewhere dir p

section Left

variable {settings : Settings} {b : Destination} {dir : Location} {d d' : Disk} {w w' : World}

theorem Left.change (left : Left settings b dir d) (sound : d'.Sound)
    (upholds : d.Upholds (settings.ways b) d') (clean : Clean dir settings.baseName d') :
    Left settings b dir d' := by
  refine ⟨sound, upholds _ List.mem_cons_self _ left.leads, clean, left.accepts, fun p hp => ?_⟩
  obtain ⟨hne, dest, hdest, apart⟩ := left.elsewhere p hp
  exact ⟨hne, dest, upholds p (List.mem_cons_of_mem _ hp) dest hdest, apart⟩

theorem Left.spared (left : Left settings b dir d) (h : Spared dir settings.baseName d d') :
    Left settings b dir d' :=
  left.change h.sound h.tended.carries.upholds (left.clean.of_tended h.tended)

theorem Left.configure (left : Left settings b dir w.disk) :
    ∃ result b' faults, b.configure (Connection.ofText settings.connection) w
        = (result, b', { w with disk := { w.disk with faults } }) ∧
      (w.disk.faults = [] → result = .ok () ∧ faults = [] ∧
        ∀ directory, b'.localDirectory = some directory → w.disk.Elsewhere dir directory) := by
  have accepts := left.accepts
  have elsewhere := left.elsewhere
  cases b with
  | archive a =>
    obtain ⟨hne, dest, hdest, apart⟩ := elsewhere _ List.mem_cons_self
    obtain ⟨result, faults, hmkdirs, hcalm⟩ := Disk.mkdirs_there (.inr ⟨dest, hdest⟩)
    simp only [Destination.configure, Archive.configure, if_neg hne, hmkdirs]
    cases result with
    | error e => exact ⟨_, _, faults, rfl, fun calm => absurd (hcalm calm).1 (by simp)⟩
    | ok =>
      refine ⟨_, _, faults, rfl, fun calm => ⟨rfl, (hcalm calm).2, fun directory heq => ?_⟩⟩
      obtain rfl := Option.some.inj heq
      exact ⟨hne, dest, hdest, apart⟩
  | store s =>
    refine ⟨_, _, w.disk.faults, rfl, fun calm => ⟨accepts, calm, fun directory heq => ?_⟩⟩
    exact absurd heq (by simp [Destination.localDirectory])
  | scripted s =>
    refine ⟨_, _, w.disk.faults, rfl, fun calm => ⟨accepts, calm, fun directory heq => ?_⟩⟩
    exact elsewhere directory (Option.mem_toList.mpr heq)

variable (named : settings.Named)
include named

theorem Left.writeCheck (left : Left settings b dir w.disk) :
    w.Achieves (Disk.writeFile (settings.bufferDir.join Sink.writeCheckName) []) fun _ d =>
      Spared dir settings.baseName w.disk d ∧
        ∃ id, d.node? (dir ++ [Sink.writeCheckName]) = some (.file id) := by
  have only := Disk.only_join left.leads plain_writeCheckName
  have hgoal := Disk.goal_of_dirOf? left.leads plain_writeCheckName named.check
  obtain ⟨d, hok⟩ := Disk.writeFile_there [] hgoal (by decide) left.clean.check
  refine World.achieves_of_ok ⟨_, hok⟩ fun {faults _ d} hop => ?_
  obtain ⟨alters, ⟨id, hnode⟩, hfaults⟩ :=
    (only.withFaults faults).writeFile_alters (left.sound.withFaults faults) left.clean.check hop
  exact ⟨⟨spared_check named.overt alters.of_faults left.clean.check (Disk.filed_of_file hnode),
    id, hnode⟩, hfaults⟩

theorem Left.removeCheck {id : Nat} (left : Left settings b dir w.disk)
    (hnode : w.disk.node? (dir ++ [Sink.writeCheckName]) = some (.file id)) :
    w.Achieves (Disk.remove (settings.bufferDir.join Sink.writeCheckName)) fun _ d =>
      Spared dir settings.baseName w.disk d := by
  have only := Disk.only_join left.leads plain_writeCheckName
  have hgoal := Disk.goal_of_dirOf? left.leads plain_writeCheckName named.check
  refine World.achieves_of_ok ⟨_, Disk.remove_there hgoal (by decide) hnode⟩
    fun {faults _ d} hop => ?_
  obtain ⟨-, rfl⟩ := (only.withFaults faults).remove hop
  have hgone : (Disk.take { w.disk with faults } (dir ++ [Sink.writeCheckName])).node?
      (dir ++ [Sink.writeCheckName]) = none := by
    rw [Disk.node?_take _ _ _ (by simp), if_pos rfl]
  have removed := Disk.alters_take (left.sound.withFaults faults) hnode (by simp)
  exact ⟨spared_check named.overt removed.of_faults (Disk.filed_of_file hnode)
    (Disk.filed_of_none hgone), rfl⟩

theorem Left.prepareBuffer (left : Left settings b dir w.disk) :
    Spared dir settings.baseName w.disk (Sink.prepareBuffer settings.bufferDir w).2.disk ∧
      (Sink.prepareBuffer settings.bufferDir w).2.wall = w.wall ∧
      (w.disk.faults = [] → (Sink.prepareBuffer settings.bufferDir w).1 = .ok () ∧
        (Sink.prepareBuffer settings.bufferDir w).2.disk.faults = []) := by
  obtain ⟨result, faults, hmkdirs, hcalm⟩ := Disk.mkdirs_there (.inr ⟨dir, left.leads⟩)
  have spared : Spared dir settings.baseName w.disk { w.disk with faults } :=
    spared_faults left.sound faults
  rw [Sink.prepareBuffer, hmkdirs]
  cases result with
  | error e => exact ⟨spared, rfl, fun calm => absurd (hcalm calm).1 (by simp)⟩
  | ok =>
    dsimp only
    have left₁ : Left settings b dir ({ w with disk := { w.disk with faults } } : World).disk :=
      left.spared spared
    rcases left₁.writeCheck named with
      ⟨e, faults', hwrite, busy⟩ | ⟨done, d₁, hwrite, ⟨written, id, hnode⟩, hcalm₁⟩
    · rw [hwrite]
      exact ⟨spared_faults left.sound faults', rfl, fun calm => absurd (hcalm calm).2 busy⟩
    · rw [hwrite]
      dsimp only
      have written := spared.trans written
      have left₂ : Left settings b dir ({ w with disk := d₁ } : World).disk := left.spared written
      rcases left₂.removeCheck named hnode with
        ⟨e, faults', hremove, busy⟩ | ⟨done', d₂, hremove, removed, hcalm₂⟩
      · rw [hremove]
        exact ⟨written.trans (spared_faults written.sound faults'), rfl,
          fun calm => absurd (hcalm₁ (hcalm calm).2) busy⟩
      · rw [hremove]
        exact ⟨written.trans removed, rfl, fun calm => ⟨rfl, hcalm₂ (hcalm₁ (hcalm calm).2)⟩⟩

theorem Left.openAppend (left : Left settings b dir w.disk) :
    w.Achieves (Disk.openAppend (settings.bufferDir.join settings.baseName)) fun handle d =>
      Spared dir settings.baseName w.disk d ∧ ∃ id, handle = .file id ∧
        d.content id = (w.disk.fileAt? (dir ++ [settings.baseName])).getD [] := by
  have plain := named.overt.plain
  have only := Disk.only_join left.leads plain
  have hgoal := Disk.goal_of_dirOf? left.leads plain named.live
  obtain ⟨opened, hok⟩ := Disk.openForWriting_there hgoal named.size left.clean.live
  refine World.achieves_of_ok ⟨opened, hok⟩ fun {faults _ d} hop => ?_
  obtain ⟨id, rfl, alters, hnode, hfaults, hcontent⟩ :=
    (only.withFaults faults).openForWriting_alters (left.sound.withFaults faults)
      left.clean.live hop
  have same : (d.fileAt? (dir ++ [settings.baseName])).getD []
      = (w.disk.fileAt? (dir ++ [settings.baseName])).getD [] := by
    rw [Disk.fileAt?_of_node hnode, Option.getD_some]
    exact hcontent
  exact ⟨⟨spared_live alters.of_faults left.clean.live (Disk.filed_of_file hnode) same, id, rfl,
    hcontent⟩, hfaults⟩

theorem Left.openAt (left : Left settings b dir w.disk) :
    Spared dir settings.baseName w.disk
        (LiveFile.openAt (settings.bufferDir.join settings.baseName) w).2.disk ∧
      (w.disk.faults = [] → w.wall.isReadable = true → ∃ live w',
        LiveFile.openAt (settings.bufferDir.join settings.baseName) w = (.ok live, w') ∧
          w'.disk.faults = [] ∧
          live.size = ((w.disk.fileAt? (dir ++ [settings.baseName])).getD []).length) := by
  have plain := named.overt.plain
  rw [LiveFile.openAt, (Path.endsIn_join settings.bufferDir plain.no_slash).fileName? plain]
  dsimp only
  rcases left.openAppend named with
    ⟨e, faults, hopen, busy⟩ | ⟨handle, d, hopen, ⟨opened, id, rfl, hcontent⟩, hcalm⟩
  · rw [hopen]
    exact ⟨spared_faults left.sound faults, fun calm => absurd calm busy⟩
  · rw [hopen]
    dsimp only
    rcases World.achieves_length { w with disk := d } id with
      ⟨e, faults, hlength, busy⟩ | ⟨size, d', hlength, ⟨hsize, faults, rfl⟩, hcalm'⟩
    · rw [hlength]
      exact ⟨opened.trans (spared_faults opened.sound faults), fun calm => absurd (hcalm calm) busy⟩
    · rw [hlength]
      dsimp only
      generalize hw₂ : (if 0 < size then World.tell _ _ else _ : World) = w₂
      have hdisk : w₂.disk = { d with faults } := by
        rw [← hw₂]
        split <;> rfl
      have hwall : w₂.wall = w.wall := by
        rw [← hw₂]
        split <;> rfl
      refine ⟨?_, fun calm readable => ?_⟩
      · rw [hdisk]
        exact opened.trans (spared_faults opened.sound faults)
      · rw [hwall, if_pos readable]
        refine ⟨_, w₂, rfl, ?_, hsize.trans (congrArg List.length hcontent)⟩
        rw [hdisk]
        exact hcalm' (hcalm calm)

theorem Left.openLive (left : Left settings b dir w.disk) (b' : Destination) :
    Spared dir settings.baseName w.disk
        (Sink.openLive settings settings.bufferDir b' w).2.disk ∧
      (w.disk.faults = [] → w.wall.isReadable = true → ∃ s w',
        Sink.openLive settings settings.bufferDir b' w = (.ok s, w') ∧
          s.pending = settings.rolledFiles dir w'.disk ∧
          s.fileSize = ((w.disk.fileAt? (dir ++ [settings.baseName])).getD []).length) := by
  obtain ⟨spared, hcalm⟩ := left.openAt named
  rw [Sink.openLive]
  dsimp only
  cases hopen : LiveFile.openAt (settings.bufferDir.join settings.baseName) w with
  | mk result w₁ =>
  rw [hopen] at spared hcalm
  cases result with
  | error e =>
    refine ⟨spared, fun calm readable => ?_⟩
    obtain ⟨live, w', heq, -⟩ := hcalm calm readable
    exact absurd heq (by simp)
  | ok live =>
    obtain ⟨faults, hdisk⟩ :=
      (Sink.queued_leftovers (Sink.ofParts settings settings.bufferDir b' live) w₁).disk
    refine ⟨?_, fun calm readable => ?_⟩
    · show Spared _ _ _ ((Sink.ofParts settings settings.bufferDir b' live).queueLeftovers w₁).2.disk
      rw [hdisk]
      exact spared.trans (spared_faults spared.sound faults)
    · obtain ⟨live', w', heq, calm', hsize⟩ := hcalm calm readable
      simp only [Prod.mk.injEq, Except.ok.injEq] at heq
      obtain ⟨rfl, rfl⟩ := heq
      obtain ⟨hpending, hfile, hsame⟩ :=
        Sink.queueLeftovers_calm (s := Sink.ofParts settings settings.bufferDir b' live) calm'
          named.entry (spared.tended.carries.dirOf? left.leads)
      refine ⟨_, _, rfl, ?_, hfile.trans hsize⟩
      rw [hpending]
      show _ = settings.rolledFiles dir
        ((Sink.ofParts settings settings.bufferDir b' live).queueLeftovers w₁).2.disk
      rw [hsame]
      rfl

/-- A start comes as far as to open the live file, unless something fails. -/
theorem Left.start_cases (left : Left settings b dir w.disk) :
    (∃ e w', Sink.start settings (some b) w = (.error e, w') ∧ w.disk.faults ≠ [] ∧
      Spared dir settings.baseName w.disk w'.disk) ∨
    ∃ b' w', Sink.start settings (some b) w
        = Sink.openLive settings settings.bufferDir b' w' ∧
      Spared dir settings.baseName w.disk w'.disk ∧ w'.wall = w.wall ∧
      (w.disk.faults = [] → w'.disk.faults = []) := by
  obtain ⟨result, b', faults, hconfigure, hcalm⟩ := left.configure
  have spared : Spared dir settings.baseName w.disk { w.disk with faults } :=
    spared_faults left.sound faults
  have left' : Left settings b dir ({ w with disk := { w.disk with faults } } : World).disk :=
    left.spared spared
  obtain ⟨prepared, hwall, hready⟩ := left'.prepareBuffer named
  have spared := spared.trans prepared
  rw [Sink.start, hconfigure]
  cases result with
  | error e =>
    exact .inl ⟨_, _, rfl, fun calm => absurd (hcalm calm).1 (by simp),
      spared_faults left.sound faults⟩
  | ok done =>
    cases done
    dsimp only
    rw [← Settings.bufferDir]
    cases hprepare : Sink.prepareBuffer settings.bufferDir
        { w with disk := { w.disk with faults } } with
    | mk result w₂ =>
    rw [hprepare] at spared hwall hready
    have ready : w.disk.faults = [] → result = .ok () ∧ w₂.disk.faults = [] :=
      fun calm => hready (hcalm calm).2.1
    cases result with
    | error e => exact .inl ⟨_, _, rfl, fun calm => absurd (ready calm).1 (by simp), spared⟩
    | ok done =>
      cases done
      dsimp only
      cases hcheck : Sink.checkApart b' settings.bufferDir w₂ with
      | error e =>
        refine .inl ⟨_, _, rfl, fun calm => ?_, spared⟩
        -- the destination is elsewhere, as it was before
        rw [Sink.checkApart] at hcheck
        split at hcheck
        · next directory heq =>
          obtain ⟨hne, dest, hdest, apart⟩ := (hcalm calm).2.2 directory heq
          have carries := spared.tended.carries
          rw [Disk.sameDir_of_dirs hne named.entry (carries.dirOf? hdest)
            (carries.dirOf? left.leads), if_neg (by simpa using apart)] at hcheck
          exact absurd hcheck (by simp)
        · exact absurd hcheck (by simp)
      | ok done => exact .inr ⟨b', w₂, rfl, spared, hwall, fun calm => (ready calm).2⟩

/-- However far a start comes, it changes neither a rolled file nor what the live file holds. -/
theorem Left.start_spared (left : Left settings b dir w.disk) :
    Spared dir settings.baseName w.disk (Sink.start settings (some b) w).2.disk := by
  rcases left.start_cases named with ⟨e, w', hstart, -, spared⟩ | ⟨b', w', hstart, spared, -⟩
  · rw [hstart]
    exact spared
  · rw [hstart]
    exact spared.trans ((left.spared spared).openLive named b').1

theorem Left.start_calm (left : Left settings b dir w.disk) (calm : w.disk.faults = [])
    (readable : w.wall.isReadable = true) :
    ∃ s w', Sink.start settings (some b) w = (.ok s, w') ∧
      s.pending = settings.rolledFiles dir w'.disk ∧
      s.fileSize = ((w.disk.fileAt? (dir ++ [settings.baseName])).getD []).length := by
  rcases left.start_cases named with ⟨e, w', -, busy, -⟩ | ⟨b', w₂, hstart, spared, hwall, hcalm⟩
  · exact absurd calm busy
  · obtain ⟨s, w', hopen, hpending, hsize⟩ :=
      ((left.spared spared).openLive named b').2 (hcalm calm) (hwall ▸ readable)
    exact ⟨s, w', hstart.trans hopen, hpending, spared.live ▸ hsize⟩

end Left

/-! ### The first start -/

/-- The directory that a rehearsal claims to write into is there; an archive makes its own. -/
def Destination.Grounded (b : Destination) (d : Disk) : Prop :=
  match b with
  | .archive _ => True
  | .store _ => True
  | .scripted s => ∀ directory, s.directory = some directory →
    directory.chars ≠ [] ∧ ∃ dest, d.dirOf? directory = some dest

theorem Destination.grounded_ofScript (script : List Action) (d : Disk) :
    (Destination.scripted (.ofScript script none)).Grounded d := by
  intro directory heq
  exact absurd heq (by simp [Scripted.ofScript])

section Configure

variable {b b' : Destination} {connection : Connection} {w w' : World}

theorem Destination.grows_of_configure (h : b.configure connection w = (.ok (), b', w')) :
    w.disk.Grows w'.disk := by
  cases b with
  | archive a =>
    simp only [configure, Prod.mk.injEq] at h
    obtain ⟨hok, rfl, rfl⟩ := h
    obtain ⟨-, grows, -⟩ := Archive.configure_ok (Prod.ext hok rfl)
    exact grows
  | store s =>
    simp only [configure, Prod.mk.injEq] at h
    exact h.2.2 ▸ .refl _
  | scripted s =>
    simp only [configure, Prod.mk.injEq] at h
    exact h.2.2 ▸ .refl _

theorem Destination.configured (h : b.configure connection w = (.ok (), b', w'))
    (grounded : b.Grounded w.disk) :
    b.Accepts connection ∧ ∀ p ∈ b.directories connection, b'.localDirectory = some p ∧
      p.chars ≠ [] ∧ ∃ dest, w'.disk.dirOf? p = some dest := by
  cases b with
  | archive a =>
    simp only [configure, Prod.mk.injEq] at h
    obtain ⟨hok, rfl, rfl⟩ := h
    obtain ⟨hne, -, hdest⟩ := Archive.configure_ok (Prod.ext hok rfl)
    have hdirectory := Archive.directory_of_configure (Prod.ext hok rfl)
    refine ⟨trivial, fun p hp => ?_⟩
    rw [List.mem_singleton.mp hp, ← hdirectory]
    exact ⟨rfl, hne, hdest⟩
  | store s =>
    simp only [configure, Prod.mk.injEq] at h
    exact ⟨h.1, fun p hp => absurd hp List.not_mem_nil⟩
  | scripted s =>
    simp only [configure, Prod.mk.injEq] at h
    obtain ⟨hok, rfl, rfl⟩ := h
    refine ⟨hok, fun p hp => ?_⟩
    have heq := Option.mem_toList.mp hp
    exact ⟨heq, grounded p heq⟩

end Configure

theorem Sink.valid_of_prepareBuffer {p : Path} {w w' : World}
    (h : Sink.prepareBuffer p w = (.ok (), w')) : (p.join writeCheckName).Valid := by
  rw [prepareBuffer] at h
  split at h
  · exact absurd h (by simp)
  next d₁ hmkdirs =>
  dsimp only at h
  split at h
  · exact absurd h (by simp)
  next w₂ hwrite =>
  obtain ⟨faults, d₂, hop, -⟩ := World.attempt_ok hwrite
  obtain ⟨goal, slash, hgoal⟩ := Disk.goal_of_writeFile hop
  exact (Disk.goal_ok hgoal).1

section Started

variable {settings : Settings} {b b' : Destination} {dir : Location} {w₀ w : World} {s : Sink}

theorem size_of_openLive (plain : Plain settings.baseName)
    (h : Sink.openLive settings settings.bufferDir b' w₀ = (.ok s, w)) :
    Utf8.size settings.baseName ≤ maxNameSize := by
  obtain ⟨live, w₁, hopen, -⟩ := Sink.openLive_ok h
  obtain ⟨name, handle, faults, faults', d, -, hop, -⟩ := LiveFile.openAt_ok hopen
  obtain ⟨goal, slash, hgoal⟩ := Disk.goal_of_openForWriting hop
  obtain ⟨dir, rfl, rfl, -⟩ := Disk.goal_join plain hgoal
  exact Disk.size_of_openForWriting hgoal hop

/-- The live file of a sink was opened in its place, where nothing else was. -/
def Begun (settings : Settings) (dir : Location) (s : Sink) (w : World) : Prop :=
  ∃ b w₀, Sink.openLive settings settings.bufferDir b w₀ = (.ok s, w) ∧ w₀.disk.Sound ∧
    w₀.disk.goal (settings.bufferDir.join settings.baseName)
      = .ok (.entry dir settings.baseName, false) ∧
    ∀ node, w₀.disk.node? (dir ++ [settings.baseName]) = some node → ∃ id, node = .file id

/-- A sink that has started opened its live file on a sound disk, if it started on one. -/
theorem Sink.openLive_of_start {destination : Option Destination}
    (start : Sink.start settings destination w₀ = (.ok s, w)) (sound : w₀.disk.Sound) :
    ∃ b' w₁, openLive settings settings.bufferDir b' w₁ = (.ok s, w) ∧ w₁.disk.Sound := by
  obtain ⟨b, b', w₁, w₂, -, hconfigure, hprepare, -, hopen⟩ := start_ok start
  obtain ⟨-, hsound, -⟩ := prepareBuffer_ok hprepare
  exact ⟨b', w₂, hopen, hsound ((Destination.grows_of_configure hconfigure).sound sound)⟩

theorem Sink.opening_of_start (start : Sink.start settings (some b) w₀ = (.ok s, w))
    (sound : w₀.disk.Sound) (leads : w.disk.dirOf? settings.bufferDir = some dir) :
    ∃ b' w₁ w₂, b.configure (Connection.ofText settings.connection) w₀ = (.ok (), b', w₁) ∧
      prepareBuffer settings.bufferDir w₁ = (.ok (), w₂) ∧
      checkApart b' settings.bufferDir w₂ = .ok () ∧
      openLive settings settings.bufferDir b' w₂ = (.ok s, w) ∧
      w₁.disk.Carries w₂.disk ∧ w₂.disk.Sound ∧ w₂.disk.dirOf? settings.bufferDir = some dir := by
  obtain ⟨b₀, b', w₁, w₂, hb, hconfigure, hprepare, hcheck, hopen⟩ := start_ok start
  obtain rfl := Option.some.inj hb
  obtain ⟨hcarries, hsound, dir', hdir'⟩ := prepareBuffer_ok hprepare
  have carries := (opened_of_openLive hopen).carries
  obtain rfl : dir' = dir := Option.some.inj ((carries.dirOf? hdir').symm.trans leads)
  have grows := Destination.grows_of_configure hconfigure
  exact ⟨b', w₁, w₂, hconfigure, hprepare, hcheck, hopen, hcarries, hsound (grows.sound sound),
    hdir'⟩

/-- A sink that has started can start again. -/
theorem left_of_start (start : Sink.start settings (some b) w₀ = (.ok s, w))
    (sound : w₀.disk.Sound) (entry : settings.bufferDir.chars ≠ []) (overt : Overt settings.baseName)
    (grounded : b.Grounded w₀.disk) (leads : w.disk.dirOf? settings.bufferDir = some dir)
    (clean : Clean dir settings.baseName w.disk) :
    settings.Named ∧ Left settings b dir w.disk := by
  obtain ⟨b', w₁, w₂, hconfigure, hprepare, hcheck, hopen, hcarries, hsound, hdir⟩ :=
    Sink.opening_of_start start sound leads
  have opened := Sink.opened_of_openLive hopen
  obtain ⟨accepts, directories⟩ := Destination.configured hconfigure grounded
  refine ⟨⟨entry, overt, size_of_openLive overt.plain hopen, opened.path ▸ opened.valid,
    Sink.valid_of_prepareBuffer hprepare⟩, ?_⟩
  refine ⟨opened.sound hsound, leads, clean, accepts, fun p hp => ?_⟩
  obtain ⟨hlocal, hne, dest, hdest⟩ := directories p hp
  have hdest' := hcarries.dirOf? hdest
  refine ⟨hne, dest, opened.carries.dirOf? hdest', ?_⟩
  -- the start has found the two directories apart
  rw [Sink.checkApart, hlocal] at hcheck
  dsimp only at hcheck
  rw [Disk.sameDir_of_dirs hne entry hdest' hdir] at hcheck
  rintro rfl
  exact absurd hcheck (by simp)

/-- A sink that has started in a clean directory has opened its live file in its place. -/
theorem begun_of_start (start : Sink.start settings (some b) w₀ = (.ok s, w))
    (sound : w₀.disk.Sound) (plain : Plain settings.baseName)
    (leads : w.disk.dirOf? settings.bufferDir = some dir)
    (clean : Clean dir settings.baseName w.disk) : Begun settings dir s w := by
  obtain ⟨b', w₁, w₂, -, -, -, hopen, -, hsound, hdir⟩ :=
    Sink.opening_of_start start sound leads
  have opened := Sink.opened_of_openLive hopen
  refine ⟨b', w₂, hopen, hsound,
    Disk.goal_of_dirOf? hdir plain (opened.path ▸ opened.valid), fun node hnode => ?_⟩
  exact clean.live (opened.grows.nodes hnode)

end Started

end Outbox
