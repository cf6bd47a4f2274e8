import Outbox.Proofs.LiveFile.Seats
import Outbox.Proofs.Sink.Buffer

/-!
# What calls and uploads come to

While the live file is a regular one, an append writes to it or does nothing, and a rollover moves
it to a free name and opens an empty one, or does the first or none of the two. An upload that is
not being delivered removes its file, or does nothing to the disk. Whatever such a step keeps is
read off from here, one case for each way it can go.
-/

set_option autoImplicit false

namespace Outbox

namespace Course

variable {dir : Location} {name : Name} {c : Course}

theorem Buffer.open_of_putAway (h : Buffer dir name c)
    (hput : ∀ e, c.sink.live.putAway LiveFile.stampPattern c.world ≠ .refused e) :
    ∃ id, c.sink.live.handle = some (.file id) ∧
      c.world.disk.node? (dir ++ [name]) = some (.file id) := by
  obtain ⟨handle, hhandle⟩ := LiveFile.open_of_putAway hput
  obtain ⟨id, rfl, hnode⟩ := h.handle hhandle
  exact ⟨id, hhandle, hnode⟩

/-- A record that the live file has not taken counts, and that is all. -/
theorem append_failed {record : Bytes} {e : IoError} {live : LiveFile} {w : World}
    (h : c.sink.live.append record c.world = (.error e, live, w)) :
    (c.sink.append record c.world).1 = .error (.write e) ∧
      c.append record = { c with
        sink := { c.sink with live, fileSize := c.sink.fileSize + record.length }
        world := w } := by
  have hstarted := started_of_eq (append_uploads c.sink record c.world)
  have hsink : c.sink.append record c.world = (.error (.write e),
      { c.sink with live, fileSize := c.sink.fileSize + record.length }, w) := by
    rw [Sink.append, h]
  rw [hsink] at hstarted
  exact ⟨by rw [hsink], by simp [Course.append, go, hsink, hstarted, taking]⟩

theorem append_took {record : Bytes} {live : LiveFile} {w : World}
    (h : c.sink.live.append record c.world = (.ok (), live, w)) :
    (c.sink.append record c.world).1 = .ok () ∧
      c.append record = {
        sink := { c.sink with live, fileSize := c.sink.fileSize + record.length }, world := w
        deeds := c.deeds ++ [.accepted record] } := by
  have hstarted := started_of_eq (append_uploads c.sink record c.world)
  have hsink : c.sink.append record c.world
      = (.ok (), { c.sink with live, fileSize := c.sink.fileSize + record.length }, w) := by
    rw [Sink.append, h]
  rw [hsink] at hstarted
  exact ⟨by rw [hsink], by simp [Course.append, go, hsink, hstarted, taking]⟩

/-- The ways an append can go. -/
inductive Appends (dir : Location) (name : Name) (c : Course) (record : Bytes) : Prop where
  | failed (s : Sink) (w : World) (faults : List (Option OsError))
      (sink : s = { c.sink with fileSize := c.sink.fileSize + record.length })
      (disk : w.disk = { c.world.disk with faults })
      (course : c.append record = { c with sink := s, world := w })
  | written (s : Sink) (live : LiveFile) (w : World) (id : Nat) (faults : List (Option OsError))
      (sink : s = { c.sink with live, fileSize := c.sink.fileSize + record.length })
      (remains : Remains c.sink.live live)
      (node : c.world.disk.node? (dir ++ [name]) = some (.file id))
      (disk : w.disk = Disk.setContent { c.world.disk with faults } id
        (c.world.disk.content id ++ record))
      (course : c.append record
        = { sink := s, world := w, deeds := c.deeds ++ [.accepted record] })

theorem Buffer.appends (h : Buffer dir name c) (record : Bytes) : Appends dir name c record := by
  rcases hlive : c.sink.live.append record c.world with ⟨e | _, live, w⟩
  · obtain ⟨rfl, faults, hdisk⟩ := LiveFile.append_error hlive
    exact .failed _ w faults rfl hdisk (append_failed hlive).2
  · obtain ⟨handle, faults, hhandle, hwrite, hpath, hname, hsame⟩ := LiveFile.append_ok hlive
    obtain ⟨id, rfl, hnode⟩ := h.handle hhandle
    simp only [Disk.write, Except.ok.injEq, Prod.mk.injEq, true_and] at hwrite
    exact .written _ live w id faults rfl ⟨hpath, hname, .inl hsame⟩ hnode hwrite.symm
      (append_took hlive).2

def Arrives (s : Sink) (target : Path) (s' : Sink) : Prop :=
  s' = s.enqueue target ∨ s' = s.dispatch target

/-- The ways a rollover can go. What the live file held is put away in the last two. -/
inductive RollsOver (dir : Location) (name : Name) (c : Course) : Prop where
  | kept (live : LiveFile) (w : World) (faults : List (Option OsError))
      (remains : Remains c.sink.live live) (disk : w.disk = { c.world.disk with faults })
      (course : c.rollOver = { c with sink := { c.sink with live }, world := w })
  | closed (target : Path) (w w' : World) (faults : List (Option OsError))
      (moved : c.sink.live.putAway LiveFile.stampPattern c.world = .moved target w)
      (disk : w'.disk = { w.disk with faults })
      (course : c.rollOver
        = { sink := { c.sink with live := { c.sink.live with handle := none } }, world := w'
            deeds := c.deeds ++ [.closed target (c.sink.live.bytes c.world.disk)] })
  | rolled (target : Path) (w w' : World) (live : LiveFile) (s : Sink)
      (faults : List (Option OsError))
      (moved : c.sink.live.putAway LiveFile.stampPattern c.world = .moved target w)
      (opened : live = { c.sink.live with handle := some (.file w.disk.contents.length) })
      (parent : w.disk.node? dir = some .dir)
      (disk : w'.disk = { (w.disk.putNewFile (dir ++ [name])).1 with faults })
      (arrives : Arrives { c.sink with live := live.rolled w', fileSize := 0 } target s)
      (course : c.rollOver
        = { sink := s, world := w'
            deeds := c.deeds ++ [.closed target (c.sink.live.bytes c.world.disk)]
              ++ .rolled target :: started c.sink s })

theorem rollOver_failed {e : IoError} {live : LiveFile} {w : World}
    (h : c.sink.live.rollOver LiveFile.stampPattern c.world = (.error e, live, w)) :
    (c.sink.rollOver c.world).1 = .error (.rollOver e) ∧
      c.rollOver = {
        sink := { c.sink with live }, world := w
        deeds := c.deeds ++ closing c.sink c.world } := by
  have hsink : c.sink.rollOver c.world = (.error (.rollOver e), { c.sink with live }, w) := by
    rw [Sink.rollOver, h]
  have hstarted : started c.sink { c.sink with live } = [] := started_of_eq rfl
  refine ⟨by rw [hsink], ?_⟩
  simp only [Course.rollOver, go, rollDeeds, hsink, rolling, hstarted, List.append_nil]

/-- What a rollover gives comes to those that wait, or is dispatched. -/
theorem rollOver_gave {target : Path} {live : LiveFile} {w : World}
    (h : c.sink.live.rollOver LiveFile.stampPattern c.world = (.ok target, live, w)) :
    ∃ s, (c.sink.rollOver c.world).1 = .ok target ∧
      Arrives { c.sink with live, fileSize := 0 } target s ∧
      c.rollOver = {
        sink := s, world := w
        deeds := c.deeds ++ closing c.sink c.world ++ .rolled target :: started c.sink s } := by
  obtain ⟨s, hsink, harrives⟩ : ∃ s, c.sink.rollOver c.world = (.ok target, s, w) ∧
      Arrives { c.sink with live, fileSize := 0 } target s := by
    rw [Sink.rollOver, h]
    by_cases hfull : Sink.atCapacity { c.sink with live, fileSize := 0 }
    · exact ⟨_, by simp only [hfull, if_true], .inl rfl⟩
    · exact ⟨_, by simp only [hfull, Bool.false_eq_true, if_false], .inr rfl⟩
  refine ⟨s, by rw [hsink], harrives, ?_⟩
  simp only [Course.rollOver, go, rollDeeds, hsink, rolling, List.append_nil, List.append_assoc,
    List.singleton_append]

theorem closing_of_moved {target : Path} {w : World}
    (h : c.sink.live.putAway LiveFile.stampPattern c.world = .moved target w) :
    closing c.sink c.world = [.closed target (c.sink.live.bytes c.world.disk)] := by
  rw [closing, h]

theorem closing_of_unmoved
    (h : ∀ target w, c.sink.live.putAway LiveFile.stampPattern c.world ≠ .moved target w) :
    closing c.sink c.world = [] := by
  rw [closing]
  split
  · next target w hmoved => exact absurd hmoved (h target w)
  · rfl

theorem Buffer.rollsOver_moved {target : Path} {w : World} (h : Buffer dir name c)
    (hmoved : c.sink.live.putAway LiveFile.stampPattern c.world = .moved target w) :
    RollsOver dir name c := by
  have hclosing := closing_of_moved hmoved
  obtain ⟨id, -, hnode⟩ := h.open_of_putAway (by simp [hmoved])
  obtain ⟨other, moves⟩ := LiveFile.putAway_moved h.site h.called hnode hmoved
  have hnone : w.disk.node? (dir ++ [name]) = none := by
    rw [moves.node? h.site hnode, if_neg moves.ne, if_pos rfl]
  rcases LiveFile.reopen_vacant (moves.site h.site hnode).only hnone with
    ⟨e, w', faults, hreopen, hdisk⟩ | ⟨w', faults, hreopen, hdir, hdisk⟩
  · have hlive : c.sink.live.rollOver LiveFile.stampPattern c.world
        = (.error e, { c.sink.live with handle := none }, w') := by
      rw [LiveFile.rollOver_eq, hmoved]
      simp only [hreopen]
    refine .closed target w w' faults hmoved hdisk ?_
    rw [(rollOver_failed hlive).2, hclosing]
  · generalize hopened : { c.sink.live with handle := some (Handle.file w.disk.contents.length) }
      = live at hreopen
    have hlive : c.sink.live.rollOver LiveFile.stampPattern c.world
        = (.ok target, live.rolled w', w') := by
      rw [LiveFile.rollOver_eq, hmoved]
      simp only [hreopen]
    obtain ⟨s, -, harrives, hcourse⟩ := rollOver_gave hlive
    rw [hclosing] at hcourse
    exact .rolled target w w' live s faults hmoved hopened.symm hdir hdisk harrives hcourse

theorem Buffer.rollsOver (h : Buffer dir name c) : RollsOver dir name c := by
  cases hput : c.sink.live.putAway LiveFile.stampPattern c.world with
  | refused e =>
    have hlive : c.sink.live.rollOver LiveFile.stampPattern c.world
        = (.error e, c.sink.live, c.world) := by
      rw [LiveFile.rollOver_eq, hput]
    refine .kept c.sink.live c.world c.world.disk.faults (Remains.refl _) rfl ?_
    rw [(rollOver_failed hlive).2, closing_of_unmoved (by simp [hput]), List.append_nil]
  | kept e w =>
    obtain ⟨id, hhandle, hnode⟩ := h.open_of_putAway (by simp [hput])
    obtain ⟨faults, hdisk⟩ := LiveFile.putAway_kept hput
    have hsite : Site w.disk c.sink.live.path dir name := by
      rw [hdisk]
      exact h.site.withFaults faults
    have hnode' : w.disk.node? (dir ++ [name]) = some (.file id) := by
      rw [hdisk]
      exact hnode
    have seats := Disk.seats_of_file hsite.sound hsite.valid hsite.only hnode'
    obtain ⟨result, handle, w', faults', hreopen, hopen, hdisk'⟩ := LiveFile.reopen_seated seats
    have hremains : Remains c.sink.live { c.sink.live with handle } :=
      ⟨rfl, rfl, hopen.imp_left (·.trans hhandle.symm)⟩
    obtain ⟨e', hlive⟩ : ∃ e', c.sink.live.rollOver LiveFile.stampPattern c.world
        = (.error e', { c.sink.live with handle }, w') := by
      rw [LiveFile.rollOver_eq, hput]
      cases result with
      | error e' => exact ⟨e', by simp only [hreopen]⟩
      | ok => exact ⟨e, by simp only [hreopen]⟩
    refine .kept { c.sink.live with handle } w' faults' hremains (by rw [hdisk', hdisk]) ?_
    rw [(rollOver_failed hlive).2, closing_of_unmoved (by simp [hput]), List.append_nil]
  | moved target w => exact h.rollsOver_moved hput

/-! ### Uploads -/

/-- The ways a turn of an upload can go. What a delivery does is left to the destination. -/
inductive Turns (dir : Location) (name : Name) (c : Course) (u : Upload) : Prop where
  | idle (phase : Phase) (w : World) (faults : List (Option OsError))
      (still : ∀ source stage, u.phase ≠ .delivering source stage)
      (needs : { u with phase }.needsFile = true → u.needsFile = true)
      (reads : ∀ {source stage}, phase = .delivering source stage → stage = .begun ∧
        ∃ other id, Placed c.sink.live.path dir name c.world.disk u.path other id ∧
          source = .file id)
      (stays : phase ≠ .removing)
      (disk : w.disk = { c.world.disk with faults })
      (turn : u.turn c.sink.destination c.world = ({ u with phase }, c.sink.destination, w))
  | delivering (source : Handle) (stage : Delivery) (phase : u.phase = .delivering source stage)
  | removed (other : Name) (id : Nat) (w : World) (faults : List (Option OsError))
      (phase : u.phase = .removing)
      (placed : Placed c.sink.live.path dir name c.world.disk u.path other id)
      (disk : w.disk = { c.world.disk.take (dir ++ [other]) with faults })
      (turn : u.turn c.sink.destination c.world
        = ({ u with phase := .ended (.ok ()) }, c.sink.destination, w))

theorem Buffer.turns {u : Upload} (h : Buffer dir name c) (hu : u ∈ c.sink.uploads) :
    Turns dir name c u := by
  cases hphase : u.phase with
  | opening =>
    have hneeds : u.needsFile = true := by simp [Upload.needsFile, hphase]
    obtain ⟨other, id, hplaced⟩ := h.placed u.path (mem_waiting hu hneeds)
    cases hopen : c.world.attempt (Disk.openRead u.path) with
    | mk result w =>
      cases result with
      | error e =>
        obtain ⟨faults, hw⟩ := World.attempt_error hopen
        refine .idle (.ended (.error (.io e))) w faults (by simp [hphase]) (fun _ => hneeds)
          (fun hstage => absurd hstage (by simp)) (by simp) (by rw [hw]) ?_
        rw [Upload.turn, hphase]
        simp only [hopen]
      | ok source =>
        obtain ⟨faults, disk, hop, hw⟩ := World.attempt_ok hopen
        obtain ⟨rfl, rfl⟩ :=
          ((hplaced.only h.site).withFaults faults).openRead_file hplaced.node hop
        refine .idle (.delivering (.file id) .begun) w faults (by simp [hphase]) (fun _ => hneeds)
          (fun hstage => ?_) (by simp) (by rw [hw]) ?_
        · obtain ⟨rfl, rfl⟩ := Phase.delivering.inj hstage
          exact ⟨rfl, other, id, hplaced, rfl⟩
        · rw [Upload.turn, hphase]
          simp only [hopen]
  | delivering source stage => exact .delivering source stage hphase
  | removing =>
    have hneeds : u.needsFile = true := by simp [Upload.needsFile, hphase]
    obtain ⟨other, id, hplaced⟩ := h.placed u.path (mem_waiting hu hneeds)
    cases hremove : c.world.attempt (Disk.remove u.path) with
    | mk result w =>
      cases result with
      | error e =>
        obtain ⟨faults, hw⟩ := World.attempt_error hremove
        refine .idle (.ended (.ok ())) (w.tell (.keptAfterUpload u.path e)) faults
          (by simp [hphase]) (fun _ => hneeds) (fun hstage => absurd hstage (by simp)) (by simp) ?_ ?_
        · rw [hw]
          rfl
        · rw [Upload.turn, hphase]
          simp only [hremove]
      | ok =>
        obtain ⟨faults, disk, hop, hw⟩ := World.attempt_ok hremove
        obtain ⟨-, rfl⟩ := ((hplaced.only h.site).withFaults faults).remove hop
        refine .removed other id w faults hphase hplaced ?_ ?_
        · rw [hw]
          rfl
        · rw [Upload.turn, hphase]
          simp only [hremove]
  | ended result =>
    refine .idle (.ended result) c.world c.world.disk.faults (by simp [hphase]) (fun hneeds => ?_)
      (fun hstage => absurd hstage (by simp)) (by simp) rfl ?_
    · simpa [Upload.needsFile, hphase] using hneeds
    · have hsame : u = { u with phase := .ended result } := by rw [← hphase]
      rw [Upload.turn, hphase, ← hsame]

/-- An upload that goes on to remove its file has delivered it. -/
theorem taken_of_turn {u : Upload} {b : Destination} {w : World}
    (h : (u.turn b w).1.phase = .removing) : u.phase = .removing ∨
      ∃ bytes, .delivered u.path bytes ∈ delivery u (u.turn b w).1 w := by
  cases hphase : u.phase with
  | delivering source stage =>
    exact .inr ⟨source.bytes w.disk, by simp only [delivery, hphase, h, List.mem_singleton]⟩
  | removing => exact .inl rfl
  | opening =>
    rw [Upload.turn, hphase] at h
    dsimp only at h
    split at h <;> exact absurd h (by simp)
  | ended result =>
    rw [Upload.turn, hphase] at h
    exact absurd (hphase.symm.trans h) (by simp)

theorem taken_of_release {u : Upload} {action : Action} {b : Destination} {w : World}
    (h : (u.release action b w).1.phase = .removing) : u.phase = .removing ∨
      ∃ bytes, .delivered u.path bytes ∈ delivery u (u.release action b w).1 w := by
  rw [Upload.release] at h ⊢
  split at h
  · next source hphase =>
    dsimp only at h
    exact .inr ⟨source.bytes w.disk, by simp only [delivery, hphase, h, List.mem_singleton]⟩
  · exact .inl h

theorem source_of_afterTurn {source source' : Handle} {stage : Delivery} {turn : Turn}
    (h : Upload.afterTurn source turn = .delivering source' stage) : source' = source := by
  rcases turn with stage' | (e | _)
  · exact (Phase.delivering.inj h).1.symm
  · exact absurd h (by simp [Upload.afterTurn])
  · exact absurd h (by simp [Upload.afterTurn])

end Course

end Outbox
