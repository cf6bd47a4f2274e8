import Outbox.Proofs.Disk.Directories
import Outbox.Proofs.LiveFile.Operations

/-!
# Live files of any kind

A live file need not be a regular file under its own name: its path may end in a link to a file
elsewhere, or in a device. What a sink relies on then is `Seats`: the path ends in one entry of one
directory, and whoever opens it gets the file that is open. A rename moves that entry, whatever it
is, and behind it a new and empty file is opened in its place. The one case to exclude is that the
moved entry, being a link, lays a new way for the path itself, and it cannot, because the link
leads to a file and so to no directory (`Seats.carries_move`).
-/

set_option autoImplicit false

namespace Outbox

namespace Disk

variable {d d' : Disk} {p q : Path} {dir : Location} {name other : Name} {handle handle' : Handle}

/-! ### Opening twice -/

theorem approach_of_carries {links left : Nat} {loc : Location} {names : List Name}
    (carries : d.Carries d') (h : d.approach links loc names = .ok (.entry dir name, left)) :
    d'.approach links loc names = .ok (.entry dir name, left) := by
  cases approach_ok h with
  | entry front used hnames hlast hwalk hused =>
    rw [hnames, (carries.walk hwalk).approach_name hlast (by omega)]
    congr
    omega

/-- Where a search has found a free place, it finds the file that is made there. -/
theorem pursueFrom_of_grows {turns links id : Nat} {r : Route} {loc : Location}
    (grows : d.Grows d') (hmade : d'.node? loc = some (.file id))
    (h : d.pursueFrom true turns links r = .ok (.free loc)) :
    d'.pursueFrom true turns links r = .ok (.node loc (.file id)) := by
  induction turns generalizing links r with
  | zero => exact absurd h (by simp [pursueFrom])
  | succ turns ih =>
    cases happroach : d.approach links r.start r.names with
    | error e => simp [pursueFrom, happroach] at h
    | ok result =>
      obtain ⟨_ | there, left⟩ := result
      · next dir name =>
        have happroach' := approach_of_carries grows.keeps.carries happroach
        cases hslash : r.slash with
        | true => simp [pursueFrom, happroach, hslash] at h
        | false =>
          rw [pursueFrom_entry turns (by rw [hslash, Bool.and_false]) happroach] at h
          rw [pursueFrom_entry turns (by rw [hslash, Bool.and_false]) happroach']
          cases hentry : d.nodeIn? dir name with
          | error e => simp [hentry] at h
          | ok node =>
            obtain ⟨rfl, hsize⟩ := nodeIn?_ok hentry
            rw [hentry] at h
            rw [nodeIn?_of_size hsize]
            cases hnode : d.node? (dir ++ [name]) with
            | none =>
              simp only [hnode, hslash, Bool.false_eq_true, if_false, Except.ok.injEq,
                Found.free.injEq] at h
              subst h
              simp only [hmade, hslash, Bool.false_eq_true, if_false]
            | some node =>
              rw [grows.nodes hnode]
              cases node with
              | link target =>
                cases left with
                | zero => simp [hnode] at h
                | succ left =>
                  simp only [hnode] at h
                  exact ih h
              | dir => simp [hnode, hslash] at h
              | file id => simp [hnode, hslash] at h
              | full => simp [hnode, hslash] at h
      · simp [pursueFrom, happroach] at h

theorem node_of_pursueFrom {creating : Bool} {turns links : Nat} {r : Route} {loc : Location}
    {node : Node} (h : d.pursueFrom creating turns links r = .ok (.node loc node)) :
    d.node? loc = some node := by
  induction turns generalizing links r with
  | zero => exact absurd h (by simp [pursueFrom])
  | succ turns ih =>
    cases happroach : d.approach links r.start r.names with
    | error e => simp [pursueFrom, happroach] at h
    | ok result =>
      obtain ⟨_ | there, left⟩ := result
      · next dir name =>
        cases hslash : creating && r.slash with
        | true => simp [pursueFrom, happroach, hslash] at h
        | false =>
          rw [pursueFrom_entry turns hslash happroach] at h
          cases hentry : d.nodeIn? dir name with
          | error e => simp [hentry] at h
          | ok found =>
            obtain ⟨rfl, -⟩ := nodeIn?_ok hentry
            rw [hentry] at h
            cases hnode : d.node? (dir ++ [name]) with
            | none => cases hend : r.slash <;> simp [hnode, hend] at h
            | some node' =>
              cases node' with
              | link target =>
                cases left with
                | zero => simp [hnode] at h
                | succ left =>
                  simp only [hnode] at h
                  exact ih h
              | dir => cases hend : r.slash <;> simp_all
              | file id => cases hend : r.slash <;> simp_all
              | full => cases hend : r.slash <;> simp_all
      · simp [pursueFrom, happroach] at h

/-- The path of a file that can be opened for writing ends in a name. -/
theorem goal_of_creating {found : Found} (h : d.pursue true p = .ok found)
    (hfound : ∀ loc node, found ≠ .asDir loc node) :
    ∃ dir name, d.goal p = .ok (.entry dir name, false) := by
  obtain ⟨goal, slash, hgoal⟩ := goal_of_pursue h
  obtain ⟨valid, rfl, left, happroach⟩ := goal_ok hgoal
  have happroach : d.approach maxLinks (routeFrom d.start p).start (routeFrom d.start p).names
      = .ok (goal, left) := happroach
  rw [pursue, route_of_valid d valid] at h
  simp only [pursueFrom, happroach] at h
  cases goal with
  | here loc => exact absurd (Except.ok.inj h).symm (hfound _ _)
  | entry dir name =>
    refine ⟨dir, name, ?_⟩
    rw [hgoal]
    cases hslash : decide (p.chars.getLast? = some '/') with
    | false => rfl
    | true =>
      have hroute : (routeFrom d.start p).slash = true := hslash
      simp [hroute] at h

/-- Whoever opens a path again that has been opened for writing gets the same file. -/
theorem again_of_openForWriting (h : openForWriting p d = .ok (handle, d')) :
    (∃ dir name, d'.goal p = .ok (.entry dir name, false)) ∧
      ∃ loc node, d'.pursue true p = .ok (.node loc node) ∧ d'.node? loc = some node ∧
        writable node = .ok handle := by
  obtain ⟨grows, -, -⟩ := openForWriting_ok h
  rw [openForWriting] at h
  cases hpursue : d.pursue true p with
  | error e => simp [hpursue] at h
  | ok found =>
    rw [hpursue] at h
    cases found with
    | asDir loc node => exact absurd h (by simp)
    | node loc node =>
      cases hwritable : writable node with
      | error e => simp [hwritable, Except.map] at h
      | ok handle' =>
        simp only [hwritable, Except.map, Except.ok.injEq, Prod.mk.injEq] at h
        obtain ⟨rfl, rfl⟩ := h
        refine ⟨goal_of_creating hpursue (by simp), loc, node, hpursue, ?_, hwritable⟩
        rw [pursue] at hpursue
        split at hpursue
        · exact absurd hpursue (by simp)
        · exact node_of_pursueFrom hpursue
    | free loc =>
      simp only [Except.ok.injEq, Prod.mk.injEq] at h
      obtain ⟨rfl, rfl⟩ := h
      obtain ⟨dir, name, hgoal⟩ := goal_of_creating hpursue (by simp)
      have valid := (goal_ok hgoal).1
      rw [pursue, route_of_valid d valid] at hpursue
      obtain ⟨dir', name', rfl, -⟩ := free_of_pursueFrom (names_of_route d.start p) hpursue
      refine ⟨⟨dir, name, grows.keeps.carries.goal hgoal⟩, dir' ++ [name'],
        .file d.contents.length, ?_, ?_, rfl⟩
      · rw [pursue, route_of_valid _ valid]
        refine pursueFrom_of_grows grows ?_ hpursue
        rw [node?_putNewFile _ _ _ (by simp), if_pos rfl]
      · rw [node?_putNewFile _ _ _ (by simp), if_pos rfl]

/-! ### Seats -/

/-- Where an open file is reached by its path: the path ends in one entry, and leads to the file,
or nowhere while others bar the way. -/
structure Seats (d : Disk) (p : Path) (dir : Location) (name : Name) (handle : Handle) :
    Prop where
  valid : p.Valid
  only : d.Only p dir name
  not_dir : d.node? (dir ++ [name]) ≠ some .dir
  blocked : ∀ used mid, ¬ Walk d used dir [name] mid
  leads : ∀ {found : Found}, d.pursue true p = .ok found →
    ∃ loc node, found = .node loc node ∧ writable node = .ok handle
  numbered : ∀ {id : Nat}, handle = .file id → id < d.contents.length

theorem Alike.carries (alike : d.Alike d') : d'.Carries d :=
  Keeps.carries ⟨alike.start.symm, fun h => alike.nodes _ ▸ h, fun h => alike.nodes _ ▸ h⟩

theorem seats_of_file {id : Nat} (sound : d.Sound) (valid : p.Valid) (only : d.Only p dir name)
    (hnode : d.node? (dir ++ [name]) = some (.file id)) : d.Seats p dir name (.file id) where
  valid := valid
  only := only
  not_dir := by simp [hnode]
  blocked := by
    intro used mid hwalk
    cases hwalk with
    | dot => exact only.plain.last.1 rfl
    | up => exact only.plain.last.2 rfl
    | down _ _ _ _ hdir => exact absurd (hnode.symm.trans hdir) (by simp)
    | link _ _ _ _ hlink => exact absurd (hnode.symm.trans hlink) (by simp)
  leads := by
    intro found hpursue
    obtain ⟨-, -, rfl⟩ := only.pursue (by simp [hnode]) hpursue
    rw [hnode]
    exact ⟨_, _, rfl, rfl⟩
  numbered := by
    rintro _ ⟨⟩
    exact sound.numbered hnode

theorem seats_of_openForWriting (sound : d.Sound) (h : openForWriting p d = .ok (handle, d')) :
    ∃ dir name, d'.Seats p dir name handle := by
  obtain ⟨grows, -, hdead⟩ := openForWriting_ok h
  obtain ⟨⟨dir, name, hgoal⟩, loc, node, hpursue, hnode, hwritable⟩ := again_of_openForWriting h
  obtain ⟨valid, only⟩ := only_of_goal hgoal
  obtain ⟨front, used, hsteps, -, hwalk, -⟩ := steps_of_goal hgoal
  refine ⟨dir, name, valid, only, ?_, ?_, ?_, ?_⟩
  · intro hdir
    obtain ⟨left, hfound⟩ := pursue_of_goal true hgoal
    cases hentry : d'.nodeIn? dir name with
    | error e => simp [hentry, hpursue] at hfound
    | ok entry =>
      obtain ⟨rfl, -⟩ := nodeIn?_ok hentry
      simp only [hpursue, hentry, hdir, Except.ok.injEq, Found.node.injEq] at hfound
      rw [hfound.2] at hwritable
      exact absurd hwritable (by simp [writable])
  · intro used' mid hlast
    apply hdead (used + used') mid
    rw [hsteps]
    exact hwalk.append hlast
  · intro found hfound
    rw [hpursue, Except.ok.injEq] at hfound
    exact ⟨loc, node, hfound.symm, hwritable⟩
  · rintro id rfl
    cases node with
    | file id' =>
      simp only [writable, Except.ok.injEq, Handle.file.injEq] at hwritable
      subst hwritable
      exact (grows.sound sound).numbered hnode
    | dir => exact absurd hwritable (by simp [writable])
    | link target => exact absurd hwritable (by simp [writable])
    | full => exact absurd hwritable (by simp [writable])

namespace Seats

theorem of_alike (h : d.Seats p dir name handle) (alike : d.Alike d')
    (length : d.contents.length ≤ d'.contents.length) : d'.Seats p dir name handle where
  valid := h.valid
  only := h.only.of_alike alike
  not_dir := by
    rw [alike.nodes]
    exact h.not_dir
  blocked := fun used mid hwalk => h.blocked used mid (alike.carries.walk hwalk)
  leads := by
    intro found hpursue
    rw [alike.pursue] at hpursue
    exact h.leads hpursue
  numbered := fun hid => Nat.lt_of_lt_of_le (h.numbered hid) length

theorem withFaults (h : d.Seats p dir name handle) (faults : List (Option OsError)) :
    ({ d with faults } : Disk).Seats p dir name handle :=
  h.of_alike (alike_faults d faults) (Nat.le_refl _)

theorem openForWriting (h : d.Seats p dir name handle)
    (hopen : Disk.openForWriting p d = .ok (handle', d')) : handle' = handle ∧ d' = d := by
  rw [Disk.openForWriting] at hopen
  cases hpursue : d.pursue true p with
  | error e => simp [hpursue] at hopen
  | ok found =>
    obtain ⟨loc, node, rfl, hwritable⟩ := h.leads hpursue
    simp only [hpursue, hwritable, Except.map, Except.ok.injEq, Prod.mk.injEq] at hopen
    exact ⟨hopen.1.symm, hopen.2.symm⟩

/-- To move the entry lays no new way. -/
theorem carries_move {node : Node} (h : d.Seats p dir name handle) (sound : d.Sound)
    (hentry : d.nodeIn? dir name = .ok (some node)) (ne : dir ++ [name] ≠ dir ++ [other]) :
    (d.move (dir ++ [name]) (dir ++ [other])).Carries d := by
  obtain ⟨hnode, hsize⟩ := nodeIn?_ok hentry
  have hdir : node ≠ .dir := by
    rintro rfl
    exact h.not_dir hnode.symm
  have lookup := sound.node?_move hnode.symm hdir ne (by simp)
  have dirs : ∀ {loc : Location}, (d.move (dir ++ [name]) (dir ++ [other])).node? loc = some .dir →
      d.node? loc = some .dir := by
    intro loc hloc
    rw [lookup] at hloc
    split at hloc
    · exact absurd (Option.some.inj hloc) hdir
    · split at hloc
      · exact absurd hloc (by simp)
      · exact hloc
  refine ⟨rfl, fun {links loc there names} hwalk => ?_⟩
  induction hwalk with
  | stay hloc => exact .stay (dirs hloc)
  | dot hloc _ ih => exact .dot (dirs hloc) ih
  | up hloc _ ih => exact .up (dirs hloc) ih
  | down hloc hdot hup hsize hnode _ ih => exact .down (dirs hloc) hdot hup hsize (dirs hnode) ih
  | @link links loc there name' target rest hloc hdot hup hsize' hlink _ ih =>
    rw [lookup] at hlink
    split at hlink
    · next heq =>
      -- the moved link leads where it led, and that is to no directory
      obtain ⟨rfl, -⟩ := List.append_inj' heq rfl
      rw [hlink] at hnode
      obtain ⟨l₁, l₂, mid, hfront, -, -⟩ := ih.split
      refine absurd ?_ (h.blocked (l₁ + 1) mid)
      refine .link (dirs hloc) h.only.plain.last.1 h.only.plain.last.2 hsize hnode.symm ?_
      rwa [List.append_nil]
    · split at hlink
      · exact absurd hlink (by simp)
      · exact .link (dirs hloc) hdot hup hsize' hlink ih

/-- What is left when the entry has got another name: the path leads to its place only, and nothing
is there. -/
theorem rename (h : d.Seats p dir name handle) (sound : d.Sound) (only' : d.Only q dir other)
    (ne : name ≠ other) (hrename : Disk.rename p q d = .ok ((), d')) :
    Site d' p dir name ∧ d'.node? (dir ++ [name]) = none ∧ d'.contents = d.contents := by
  obtain ⟨⟨node, hentry⟩, hgoal, -, htaken, rfl⟩ := h.only.rename only' h.not_dir ne hrename
  have hnode := (nodeIn?_ok hentry).1
  have hdir : node ≠ .dir := by
    rintro rfl
    exact h.not_dir hnode.symm
  have hne : dir ++ [name] ≠ dir ++ [other] := by simpa using ne
  refine ⟨⟨?_, h.valid, h.only.of_carries (h.carries_move sound hentry hne)⟩, ?_, rfl⟩
  · exact sound.move hnode.symm hdir (isDir_of_goal hgoal) only'.plain htaken hne
  · rw [sound.node?_move hnode.symm hdir hne (by simp), if_neg hne, if_pos rfl]

theorem write {record : Bytes} (h : d.Seats p dir name handle) (sound : d.Sound)
    (hwrite : Disk.write handle record d = .ok ((), d')) :
    d'.Sound ∧ d'.Seats p dir name handle ∧ handle.bytes d' = handle.bytes d ++ record := by
  cases handle with
  | file id =>
    simp only [Disk.write, Except.ok.injEq, Prod.mk.injEq, true_and] at hwrite
    subst hwrite
    refine ⟨sound.setContent _ _, h.of_alike ⟨rfl, fun _ => rfl⟩ ?_, ?_⟩
    · simp [setContent]
    · show (d.setContent id _).content id = _
      rw [content_setContent _ _ _ _ (h.numbered rfl), if_pos rfl]
      rfl
  | full =>
    simp only [Disk.write] at hwrite
    split at hwrite
    · next hnil =>
      simp only [Except.ok.injEq, Prod.mk.injEq, true_and] at hwrite
      subst hwrite
      exact ⟨sound, h, by rw [hnil, List.append_nil]⟩
    · exact absurd hwrite (by simp)
  | dir => exact absurd hwrite (by simp [Disk.write])

end Seats

end Disk

namespace LiveFile

variable {file file' : LiveFile} {w w' : World} {dir : Location} {name : Name} {handle : Handle}

theorem reopen_seated (seats : w.disk.Seats file.path dir name handle) :
    ∃ result reopened w' faults, file.reopen w = (result, { file with handle := reopened }, w') ∧
      (reopened = some handle ∨ reopened = none) ∧ w'.disk = { w.disk with faults } := by
  rcases hopen : w.attempt (Disk.openAppend file.path) with ⟨e | handle', w'⟩
  · obtain ⟨faults, hdisk⟩ := World.attempt_error hopen
    exact ⟨.error e, none, w', faults, by rw [reopen, hopen], .inr rfl, by rw [hdisk]⟩
  · obtain ⟨faults, disk, hop, rfl⟩ := World.attempt_ok hopen
    obtain ⟨rfl, rfl⟩ := (seats.withFaults faults).openForWriting hop
    exact ⟨.ok (), some handle', _, faults, by rw [reopen, hopen], .inl rfl, rfl⟩

/-- A live file that is open and is reached by its path. -/
structure Seated (file : LiveFile) (d : Disk) (handle : Handle) : Prop where
  sound : d.Sound
  opened : file.handle = some handle
  seats : ∃ dir, d.Seats file.path dir file.counters.name handle

/-- What others may do to a live file: nothing. It is reached by its path if it was, and holds what
it held. -/
def Rests (file : LiveFile) (d d' : Disk) : Prop :=
  ∀ {handle : Handle}, file.Seated d handle →
    file.Seated d' handle ∧ handle.bytes d' = handle.bytes d

theorem rests_faults (file : LiveFile) (d : Disk) (faults : List (Option OsError)) :
    file.Rests d { d with faults } := by
  rintro handle ⟨sound, opened, dir, seats⟩
  refine ⟨⟨sound.withFaults faults, opened, dir, seats.withFaults faults⟩, ?_⟩
  cases handle <;> rfl

theorem Seated.bytes {d : Disk} (h : file.Seated d handle) : file.bytes d = handle.bytes d := by
  rw [LiveFile.bytes, h.opened]

theorem Seated.append {record : Bytes} (h : file.Seated w.disk handle)
    (happend : file.append record w = (.ok (), file', w')) :
    file'.Seated w'.disk handle ∧ handle.bytes w'.disk = handle.bytes w.disk ++ record := by
  obtain ⟨handle', faults, hhandle, hwrite, hpath, hname, hsame⟩ := append_ok happend
  obtain rfl : handle' = handle := Option.some.inj (hhandle.symm.trans h.opened)
  obtain ⟨dir, seats⟩ := h.seats
  obtain ⟨sound, seats, hbytes⟩ :=
    (seats.withFaults faults).write (h.sound.withFaults faults) hwrite
  refine ⟨⟨sound, hsame.trans h.opened, dir, ?_⟩, ?_⟩
  · rw [hpath, hname]
    exact seats
  · rw [hbytes]
    cases handle' <;> rfl

/-- The ways a rollover of a live file can go, whatever it is. -/
inductive Rolls (file : LiveFile) (w : World) : Except IoError Path → LiveFile → World → Prop where
  | kept {e : IoError} {file' : LiveFile} {w' : World} (faults : List (Option OsError))
      (unmoved : ∀ target w₁, file.putAway stampPattern w ≠ .moved target w₁)
      (live : file' = file ∨ file' = { file with handle := none })
      (disk : w'.disk = { w.disk with faults }) : Rolls file w (.error e) file' w'
  | shut {e : IoError} {w' : World} (target : Path) (w₁ : World)
      (moved : file.putAway stampPattern w = .moved target w₁) :
      Rolls file w (.error e) { file with handle := none } w'
  | rolled {target : Path} {file' : LiveFile} {w' : World} (w₁ : World) (handle : Handle)
      (moved : file.putAway stampPattern w = .moved target w₁)
      (seated : file'.Seated w'.disk handle) (empty : handle.bytes w'.disk = []) :
      Rolls file w (.ok target) file' w'

theorem vacant_of_putAway {target : Path} (sound : w.disk.Sound)
    (seats : w.disk.Seats file.path dir file.counters.name handle)
    (hput : file.putAway stampPattern w = .moved target w') :
    Site w'.disk file.path dir file.counters.name ∧
      w'.disk.node? (dir ++ [file.counters.name]) = none := by
  obtain ⟨hrolled, faults, hrename⟩ := putAway_ok hput
  obtain ⟨other, hother, rfl⟩ := rolledName_ok hrolled
  have hplain := hother.plain seats.only.plain
  have hbeside := Path.beside_withFileName seats.only.endsIn seats.only.plain hplain
  have only' := seats.only.beside seats.valid hbeside hplain
  obtain ⟨site, hnone, -⟩ := (seats.withFaults faults).rename (sound.withFaults faults)
    (only'.withFaults faults) hother.ne hrename
  exact ⟨site, hnone⟩

theorem rolls {result : Except IoError Path}
    (h : ∀ {handle : Handle}, file.handle = some handle → file.Seated w.disk handle)
    (hroll : file.rollOver stampPattern w = (result, file', w')) :
    file.Rolls w result file' w' := by
  rcases hhandle : file.handle with _ | handle
  · rw [rollOver, hhandle] at hroll
    simp only [Prod.mk.injEq] at hroll
    obtain ⟨rfl, rfl, rfl⟩ := hroll
    exact .kept w.disk.faults (by simp [putAway, hhandle]) (.inl rfl) rfl
  obtain ⟨sound, -, dir, seats⟩ := h hhandle
  rw [rollOver_eq] at hroll
  cases hput : file.putAway stampPattern w with
  | refused e =>
    simp only [hput, Prod.mk.injEq] at hroll
    obtain ⟨rfl, rfl, rfl⟩ := hroll
    exact .kept w.disk.faults (by simp [hput]) (.inl rfl) rfl
  | kept e w₁ =>
    obtain ⟨faults, hdisk⟩ := putAway_kept hput
    have seats : w₁.disk.Seats file.path dir file.counters.name handle :=
      hdisk ▸ seats.withFaults faults
    obtain ⟨reopening, reopened, w₂, faults', hreopen, hcases, hdisk'⟩ := reopen_seated seats
    have live : { file with handle := reopened } = file ∨
        { file with handle := reopened } = { file with handle := none } := by
      rcases hcases with rfl | rfl
      · exact .inl (by rw [← hhandle])
      · exact .inr rfl
    simp only [hput, hreopen] at hroll
    cases reopening <;>
    · simp only [Prod.mk.injEq] at hroll
      obtain ⟨rfl, rfl, rfl⟩ := hroll
      exact .kept faults' (by simp [hput]) live (by rw [hdisk', hdisk])
  | moved target w₁ =>
    obtain ⟨site, hnone⟩ := vacant_of_putAway sound seats hput
    rcases reopen_vacant site.only hnone with
      ⟨e, w₂, faults, hreopen, -⟩ | ⟨w₂, faults, hreopen, hdir, hdisk⟩
    · simp only [hput, hreopen, Prod.mk.injEq] at hroll
      obtain ⟨rfl, rfl, rfl⟩ := hroll
      exact .shut target w₁ hput
    · simp only [hput, hreopen, Prod.mk.injEq] at hroll
      obtain ⟨rfl, rfl, rfl⟩ := hroll
      have hnode : w₂.disk.node? (dir ++ [file.counters.name])
          = some (.file w₁.disk.contents.length) := by
        rw [hdisk, Disk.node?_faults, Disk.node?_putNewFile _ _ _ (by simp), if_pos rfl]
      have sound : w₂.disk.Sound :=
        hdisk ▸ (site.sound.putNewFile hdir site.only.plain hnone).withFaults faults
      have narrows := (Disk.narrows_putNewFile w₁.disk (dir ++ [file.counters.name])
        (by simp)).trans (Disk.narrows_faults _ faults)
      have only : w₂.disk.Only file.path dir file.counters.name :=
        hdisk ▸ site.only.of_narrows narrows
      refine .rolled w₁ (.file w₁.disk.contents.length) hput
        ⟨sound, rfl, dir, Disk.seats_of_file sound site.valid only hnode⟩ ?_
      show w₂.disk.content _ = []
      rw [hdisk, Disk.content_faults, Disk.content_putNewFile]
      simp [Disk.content]

end LiveFile

end Outbox
