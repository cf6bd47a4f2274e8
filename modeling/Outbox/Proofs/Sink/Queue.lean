import Outbox.Proofs.Sink.Accounts
import Outbox.Proofs.Sink.Survival

/-!
# The queue of a sink

Files join the queue at its end: those that are rolled over while there are as many uploads as
allowed, and those whose upload has failed. They leave it from the front, one at each tick that
finds room for another upload. A file that is rolled over while there is room does not wait at all.

What one call can do to the queue is said once, in `Shifts`, and a step is at most two calls. From
it come the limit on uploads (`uploads_within_limit`) and the order in which files leave the queue
(`waiting_in_order`): whatever happens, what has left and what still waits are together what waited
before and what has joined since.
-/

set_option autoImplicit false

namespace Outbox

namespace Course

variable {c c' d : Course} {outside deliveries : World → World → Prop}

/-- The uploads whose outcome has not been taken in, ended or not. -/
def outstanding (c : Course) : Nat :=
  c.sink.uploads.length + c.sink.outcomes.length

/-- The course when a tick has done its rollover, if one is due. -/
def due (c : Course) : Course :=
  if c.sink.isOverdue c.world then c.rollOver else c

/-! ### What one call does to the queue -/

inductive RollShifts (c c' : Course) : Prop where
  | rests (deeds : List Deed) (quiet : Quiet deeds) (said : c'.deeds = c.deeds ++ deeds)
      (pending : c'.sink.pending = c.sink.pending) (inFlight : c'.sink.inFlight = c.sink.inFlight)
  | waits (path : Path) (before after : List Deed) (quiet : Quiet before) (quiet' : Quiet after)
      (said : c'.deeds = c.deeds ++ (before ++ ([.rolled path] ++ after)))
      (full : c.sink.atCapacity = true) (pending : c'.sink.pending = c.sink.pending ++ [path])
      (inFlight : c'.sink.inFlight = c.sink.inFlight)
  | passes (path : Path) (before after : List Deed) (quiet : Quiet before) (quiet' : Quiet after)
      (said : c'.deeds = c.deeds ++ (before ++ ([.rolled path, .dispatched path] ++ after)))
      (room : c.sink.atCapacity = false) (pending : c'.sink.pending = c.sink.pending)
      (inFlight : c'.sink.inFlight = c.sink.inFlight + 1)

/-- What a call, a turn or an outcome can do to the queue and to the number of uploads. -/
inductive Shifts (c c' : Course) : Prop where
  | rolls (rolls : RollShifts c c')
  | leaves (path : Path) (said : c'.deeds = c.deeds ++ [.dispatched path])
      (room : c.sink.atCapacity = false) (pending : c.sink.pending = path :: c'.sink.pending)
      (inFlight : c'.sink.inFlight = c.sink.inFlight + 1)
  | ends (path : Path) (said : c'.deeds = c.deeds ++ [.settled { path, result := .ok () }])
      (pending : c'.sink.pending = c.sink.pending)
      (inFlight : c'.sink.inFlight = c.sink.inFlight - 1)
  | returns (path : Path) (e : UploadError)
      (said : c'.deeds = c.deeds ++ [.settled { path, result := .error e }])
      (pending : c'.sink.pending = c.sink.pending ++ [path])
      (inFlight : c'.sink.inFlight = c.sink.inFlight - 1)

theorem Quiet.append {deeds more : List Deed} (h : Quiet deeds) (h' : Quiet more) :
    Quiet (deeds ++ more) := by
  constructor
  · rw [List.filterMap_append, h.rolled, h'.rolled, List.append_nil]
  · rw [List.filterMap_append, h.dispatched, h'.dispatched, List.append_nil]
  · rw [List.filterMap_append, h.uploaded, h'.uploaded, List.append_nil]
  · rw [List.filterMap_append, h.failed, h'.failed, List.append_nil]

theorem RollShifts.refl (c : Course) : RollShifts c c :=
  .rests [] quiet_nil (List.append_nil _).symm rfl rfl

theorem rollShifts_rollOver (c : Course) : RollShifts c c.rollOver := by
  rcases Sink.rollOver_cases c.sink c.world with
    ⟨e, live, w', -, hroll⟩ | ⟨path, live, w', -, hroll⟩
  · refine .rests (closing c.sink c.world) (quiet_closing _ _) ?_ ?_ ?_
    · have hstarted : started c.sink { c.sink with live } = [] := started_of_eq rfl
      simp only [Course.rollOver, go, rollDeeds, hroll, rolling, hstarted, List.append_nil]
    · simp only [Course.rollOver, go, hroll]
    · simp only [Course.rollOver, go, hroll]
  · by_cases hfull : c.sink.atCapacity
    · rw [if_pos hfull] at hroll
      have hstarted : started c.sink (Sink.enqueue { c.sink with live, fileSize := 0 } path) = [] :=
        started_of_eq rfl
      refine .waits path (closing c.sink c.world) [] (quiet_closing _ _) quiet_nil ?_ hfull ?_ ?_
      · simp only [Course.rollOver, go, rollDeeds, hroll, rolling, hstarted, List.append_nil]
      · simp only [Course.rollOver, go, hroll, Sink.enqueue, Sink.publish]
      · simp only [Course.rollOver, go, hroll, Sink.enqueue, Sink.publish]
    · rw [if_neg hfull] at hroll
      have hstarted : started c.sink (Sink.dispatch { c.sink with live, fileSize := 0 } path)
          = [.dispatched path] := started_append _ [Upload.ofPath path] rfl
      refine .passes path (closing c.sink c.world) [] (quiet_closing _ _) quiet_nil ?_
        (Bool.not_eq_true _ ▸ hfull) ?_ ?_
      · simp only [Course.rollOver, go, rollDeeds, hroll, rolling, hstarted, List.append_nil,
          List.append_assoc, List.singleton_append]
      · simp only [Course.rollOver, go, hroll, Sink.dispatch, Sink.publish]
      · simp only [Course.rollOver, go, hroll, Sink.dispatch, Sink.publish]

theorem rollShifts_due (c : Course) : RollShifts c c.due := by
  rw [due]
  split
  · exact rollShifts_rollOver c
  · exact .refl c

theorem RollShifts.append (h : RollShifts c d) (record : Bytes) :
    RollShifts c (d.append record) := by
  have quiet := quiet_taking record (d.sink.append record d.world).1
  have hdeeds : (d.append record).deeds
      = d.deeds ++ taking record (d.sink.append record d.world).1 := by
    simp only [Course.append, go, started_of_eq (append_uploads _ record _), List.nil_append]
  have hsame : (d.append record).sink.pending = d.sink.pending ∧
      (d.append record).sink.inFlight = d.sink.inFlight := by
    simp only [Course.append, go, Sink.append]
    split <;> exact ⟨rfl, rfl⟩
  cases h with
  | rests deeds quiet' said pending inFlight =>
    exact .rests _ (quiet'.append quiet) (by rw [hdeeds, said, List.append_assoc])
      (hsame.1.trans pending) (hsame.2.trans inFlight)
  | waits path before after quiet₁ quiet₂ said full pending inFlight =>
    exact .waits path before _ quiet₁ (quiet₂.append quiet)
      (by rw [hdeeds, said]; simp only [List.append_assoc]) full
      (hsame.1.trans pending) (hsame.2.trans inFlight)
  | passes path before after quiet₁ quiet₂ said room pending inFlight =>
    exact .passes path before _ quiet₁ (quiet₂.append quiet)
      (by rw [hdeeds, said]; simp only [List.append_assoc]) room
      (hsame.1.trans pending) (hsame.2.trans inFlight)

theorem rollShifts_output (c : Course) (record : Bytes) : RollShifts c (c.output record) := by
  rw [output_eq]
  split
  · split
    · exact (rollShifts_rollOver c).append record
    · exact rollShifts_rollOver c
  · exact (RollShifts.refl c).append record

theorem dispatchNext_of_full (h : c.sink.atCapacity = true) : c.dispatchNext = c := by
  have hnext : c.sink.dispatchNext = c.sink := by rw [Sink.dispatchNext, if_pos h]
  simp only [Course.dispatchNext, go, hnext, started_of_eq, List.append_nil]

theorem dispatchNext_of_nil (h : c.sink.pending = []) : c.dispatchNext = c := by
  have hnext : c.sink.dispatchNext = c.sink := by
    rw [Sink.dispatchNext, h]
    split <;> rfl
  simp only [Course.dispatchNext, go, hnext, started_of_eq, List.append_nil]

theorem leaves_dispatchNext {path : Path} {rest : List Path} (room : c.sink.atCapacity = false)
    (h : c.sink.pending = path :: rest) :
    c.dispatchNext.deeds = c.deeds ++ [.dispatched path] ∧ c.dispatchNext.sink.pending = rest ∧
      c.dispatchNext.sink.inFlight = c.sink.inFlight + 1 := by
  have hnext : c.sink.dispatchNext = { c.sink with pending := rest }.dispatch path := by
    rw [Sink.dispatchNext, room, h]
    rfl
  have hstarted : started c.sink ({ c.sink with pending := rest }.dispatch path)
      = [.dispatched path] := started_append _ [Upload.ofPath path] rfl
  simp only [Course.dispatchNext, go, hnext, hstarted, List.nil_append, List.append_nil]
  exact ⟨trivial, rfl, rfl⟩

theorem shifts_dispatchNext (c : Course) : Shifts c c.dispatchNext := by
  cases hcapacity : c.sink.atCapacity with
  | true =>
    rw [dispatchNext_of_full hcapacity]
    exact .rolls (.refl c)
  | false =>
    cases hpending : c.sink.pending with
    | nil =>
      rw [dispatchNext_of_nil hpending]
      exact .rolls (.refl c)
    | cons path rest =>
      obtain ⟨hdeeds, hrest, hinFlight⟩ := leaves_dispatchNext hcapacity hpending
      exact .leaves path hdeeds hcapacity (by rw [hpending, hrest]) hinFlight

theorem shifts_settle (outcome : Outcome) (rest : List Outcome) :
    Shifts c (c.settle outcome rest) := by
  obtain ⟨path, result⟩ := outcome
  cases result with
  | ok => exact .ends path rfl rfl rfl
  | error e => exact .returns path e rfl rfl rfl

/-- A tick that succeeds dispatches one waiting file, behind its rollover if one is due. -/
theorem tick_of_ok (h : (c.sink.tick c.world).1 = .ok ()) : c.tick = c.due.dispatchNext := by
  rw [tick_eq, due]
  rw [Sink.tick] at h
  split at h
  · next hover =>
    rw [if_pos hover, if_pos hover]
    split at h
    · exact absurd h (by simp)
    · next hroll => rw [hroll]
  · next hover => rw [if_neg hover, if_neg hover]

theorem tick_of_error {e : SinkError} (h : (c.sink.tick c.world).1 = .error e) :
    c.tick = c.rollOver := by
  rw [tick_eq]
  rw [Sink.tick] at h
  split at h
  · next hover =>
    rw [if_pos hover]
    split at h
    · next hroll => rw [hroll]
    · exact absurd h (by simp)
  · exact absurd h (by simp)

theorem RollShifts.keeps (h : RollShifts c c') : c.sink.pending <+: c'.sink.pending := by
  cases h with
  | rests deeds quiet said pending => exact pending ▸ List.prefix_refl _
  | waits path before after quiet quiet' said full pending => exact pending ▸ List.prefix_append _ _
  | passes path before after quiet quiet' said room pending => exact pending ▸ List.prefix_refl _

/-- A step is one shift that takes nothing from the queue, or a tick that succeeds. -/
theorem Step.shifts (step : Step outside deliveries c c') :
    (Shifts c c' ∧ c.sink.pending <+: c'.sink.pending) ∨
      (c' = c.due.dispatchNext ∧ c' = c.tick ∧ (c.sink.tick c.world).1 = .ok ()) := by
  have rolls : ∀ {d : Course}, RollShifts c d → Shifts c d ∧ c.sink.pending <+: d.sink.pending :=
    fun h => ⟨.rolls h, h.keeps⟩
  cases step with
  | output record => exact .inl (rolls (rollShifts_output c record))
  | rollOver => exact .inl (rolls (rollShifts_rollOver c))
  | tick =>
    cases htick : (c.sink.tick c.world).1 with
    | ok => exact .inr ⟨tick_of_ok htick, rfl, rfl⟩
    | error e =>
      rw [tick_of_error htick]
      exact .inl (rolls (rollShifts_rollOver c))
  | settle outcome rest first =>
    refine .inl ⟨shifts_settle outcome rest, ?_⟩
    rw [Course.settle, Sink.settleOutcome]
    split
    · exact List.prefix_refl _
    · exact List.prefix_append _ _
  | turn before u after among delivers =>
    exact .inl (rolls (.rests _ (quiet_delivery _ _ _) rfl rfl rfl))
  | release before u after action among delivers =>
    exact .inl (rolls (.rests _ (quiet_delivery _ _ _) rfl rfl rfl))
  | flag => exact .inl (rolls (.rests [] quiet_nil (List.append_nil _).symm rfl rfl))
  | handIn => exact .inl (rolls (.rests [] quiet_nil (List.append_nil _).symm rfl rfl))
  | close => exact .inl (rolls (.rests [] quiet_nil (List.append_nil _).symm rfl rfl))
  | outside => exact .inl (rolls (.rests [] quiet_nil (List.append_nil _).symm rfl rfl))

/-! ### Settings -/

theorem due_settings (c : Course) : c.due.sink.settings = c.sink.settings := by
  rw [due]
  split
  · exact rollOver_settings c
  · rfl

theorem atCapacity_eq {s s' : Sink} (settings : s'.settings = s.settings)
    (inFlight : s'.inFlight = s.inFlight) : s'.atCapacity = s.atCapacity := by
  rw [Sink.atCapacity, Sink.atCapacity, settings, inFlight]

/-! ### The limit on uploads -/

theorem atCapacity_iff {s : Sink} :
    s.atCapacity = true ↔ ∃ most, s.settings.maxInFlight = some most ∧ most ≤ s.inFlight := by
  rw [Sink.atCapacity]
  cases s.settings.maxInFlight with
  | none => simp
  | some most => simp

theorem lt_of_room {s : Sink} {most : Nat} (room : s.atCapacity = false)
    (limit : s.settings.maxInFlight = some most) : s.inFlight < most := by
  have hfull := mt (fun h => atCapacity_iff.mpr ⟨most, limit, h⟩) (Bool.eq_false_iff.mp room)
  omega

def Within (c : Course) : Prop :=
  ∀ most, c.sink.settings.maxInFlight = some most → c.sink.inFlight ≤ most

theorem Within.shifts (h : Within c) (shifts : Shifts c c')
    (same : c'.sink.settings = c.sink.settings) : Within c' := by
  intro most limit
  rw [same] at limit
  have hbefore := h most limit
  cases shifts with
  | rolls rolls =>
    cases rolls with
    | rests deeds quiet said pending inFlight => omega
    | waits path before after quiet quiet' said full pending inFlight => omega
    | passes path before after quiet quiet' said room pending inFlight =>
      have := lt_of_room room limit
      omega
  | leaves path said room pending inFlight =>
    have := lt_of_room room limit
    omega
  | ends path said pending inFlight => omega
  | returns path e said pending inFlight => omega

theorem Within.due (h : Within c) : Within c.due :=
  h.shifts (.rolls (rollShifts_due c)) (due_settings c)

theorem Within.step (h : Within c) (step : Step outside deliveries c c') : Within c' := by
  rcases step.shifts with ⟨shifts, -⟩ | ⟨rfl, -⟩
  · exact h.shifts shifts step.settings
  · exact h.due.shifts (shifts_dispatchNext c.due) (dispatchNext_settings c.due)

theorem Within.reached (h : Within c) (reached : Reached outside deliveries c c') : Within c' := by
  induction reached with
  | start => exact h
  | step _ step ih => exact ih.step step

theorem Accounts.due {queued : List Path} (h : Accounts queued c) : Accounts queued c.due := by
  rw [Course.due]
  split
  · exact h.rollOver
  · exact h

theorem within_of_start {settings : Settings} {destination : Option Destination} {s : Sink}
    {w w' : World} (start : Sink.start settings destination w = (.ok s, w')) :
    Within { sink := s, world := w', deeds := [] } := by
  intro most _
  obtain ⟨_, _, _, _, -, -, -, -, hopen⟩ := Sink.start_ok start
  have hnone := (accounts_of_openLive hopen).total
  change 0 = 0 + 0 + s.inFlight at hnone
  change s.inFlight ≤ most
  omega

theorem Within.full_iff (h : Within c) (exact : c.sink.inFlight = c.outstanding) :
    c.sink.atCapacity = true ↔ c.sink.settings.maxInFlight = some c.outstanding := by
  rw [atCapacity_iff]
  constructor
  · rintro ⟨most, limit, hle⟩
    have hmost : most = c.outstanding := by
      have := h most limit
      omega
    rw [limit, hmost]
  · intro limit
    exact ⟨_, limit, by omega⟩

/-- Without a limit only files wait that were found or that have failed. -/
def Unforced (queued : List Path) (c : Course) : Prop :=
  c.sink.pending <:+ queued ++ c.failed.map Prod.fst

theorem Unforced.shifts {queued : List Path} (h : Unforced queued c) (shifts : Shifts c c')
    (free : c.sink.settings.maxInFlight = none) : Unforced queued c' := by
  have hsame : ∀ {deeds : List Deed}, c'.deeds = c.deeds ++ deeds →
      deeds.filterMap Deed.failed? = [] → c'.failed = c.failed := by
    intro deeds hdeeds hnone
    rw [failed, hdeeds, List.filterMap_append, hnone, List.append_nil]
    rfl
  cases shifts with
  | rolls rolls =>
    cases rolls with
    | rests deeds quiet said pending inFlight =>
      rwa [Unforced, pending, hsame said quiet.failed]
    | waits path before after quiet quiet' said full pending inFlight =>
      obtain ⟨most, limit, -⟩ := atCapacity_iff.mp full
      rw [free] at limit
      exact absurd limit (by simp)
    | passes path before after quiet quiet' said room pending inFlight =>
      rw [Unforced, pending, hsame said]
      · exact h
      · simp only [List.filterMap_append, quiet.failed, quiet'.failed]
        rfl
  | leaves path said room pending inFlight =>
    rw [Unforced, hsame said rfl]
    rw [Unforced, pending] at h
    exact (List.suffix_cons _ _).trans h
  | ends path said pending inFlight => rwa [Unforced, pending, hsame said rfl]
  | returns path e said pending inFlight =>
    have hfailed : c'.failed = c.failed ++ [(path, e)] := by
      rw [failed, said, List.filterMap_append]
      rfl
    obtain ⟨gone, hgone⟩ := h
    refine ⟨gone, ?_⟩
    rw [pending, hfailed, List.map_append, ← List.append_assoc, hgone, List.append_assoc]
    rfl

theorem Unforced.step {queued : List Path} (h : Unforced queued c)
    (step : Step outside deliveries c c') (free : c.sink.settings.maxInFlight = none) :
    Unforced queued c' := by
  rcases step.shifts with ⟨shifts, -⟩ | ⟨rfl, -⟩
  · exact h.shifts shifts free
  · have hdue : Unforced queued c.due := h.shifts (.rolls (rollShifts_due c)) free
    exact hdue.shifts (shifts_dispatchNext c.due) (by rw [due_settings, free])

theorem Unforced.reached {queued : List Path} (h : Unforced queued c)
    (reached : Reached outside deliveries c c') (free : c.sink.settings.maxInFlight = none) :
    Unforced queued c' := by
  induction reached with
  | start => exact h
  | step hreached step ih => exact ih.step step (by rw [hreached.settings, free])

/-! ### A file that is rolled over -/

theorem RollShifts.of_rolled {path : Path} (h : RollShifts c c')
    (hrolled : c'.rolled = c.rolled ++ [path]) :
    (c.sink.atCapacity = true ∧ c'.dispatched = c.dispatched ∧
        c'.sink.pending = c.sink.pending ++ [path]) ∨
      (c.sink.atCapacity = false ∧ c'.dispatched = c.dispatched ++ [path] ∧
        c'.sink.pending = c.sink.pending) := by
  have heq : ∀ {deeds : List Deed}, c'.deeds = c.deeds ++ deeds →
      deeds.filterMap Deed.rolled? = [path] ∧
        c'.dispatched = c.dispatched ++ deeds.filterMap Deed.dispatched? := by
    intro deeds hdeeds
    rw [Course.rolled, hdeeds, List.filterMap_append] at hrolled
    refine ⟨List.append_cancel_left hrolled, ?_⟩
    rw [dispatched, hdeeds, List.filterMap_append]
    rfl
  cases h with
  | rests deeds quiet said pending inFlight =>
    have hnone := (heq said).1
    rw [quiet.rolled] at hnone
    exact absurd hnone (by simp)
  | waits path' before after quiet quiet' said full pending inFlight =>
    obtain ⟨hone, hdispatched⟩ := heq said
    simp only [List.filterMap_append, quiet.rolled, quiet'.rolled, quiet.dispatched,
      quiet'.dispatched] at hone hdispatched
    obtain rfl : path' = path := List.head_eq_of_cons_eq hone
    exact .inl ⟨full, hdispatched.trans (List.append_nil _), pending⟩
  | passes path' before after quiet quiet' said room pending inFlight =>
    obtain ⟨hone, hdispatched⟩ := heq said
    simp only [List.filterMap_append, quiet.rolled, quiet'.rolled, quiet.dispatched,
      quiet'.dispatched] at hone hdispatched
    obtain rfl : path' = path := List.head_eq_of_cons_eq hone
    exact .inr ⟨room, hdispatched, pending⟩

theorem due_dispatchNext (h : c.due.sink.atCapacity = true ∨ c.due.sink.pending = []) :
    c.due.dispatchNext = c.due :=
  h.elim dispatchNext_of_full dispatchNext_of_nil

/-- Behind a rollover, the dispatch of a tick rolls nothing over and only takes from the queue. -/
theorem dispatchNext_takes (c : Course) : c.dispatchNext.rolled = c.rolled ∧
    ∃ more, c.dispatchNext.dispatched = c.dispatched ++ more ∧
      c.sink.pending = more ++ c.dispatchNext.sink.pending := by
  cases hcapacity : c.sink.atCapacity with
  | true =>
    rw [dispatchNext_of_full hcapacity]
    exact ⟨rfl, [], (List.append_nil _).symm, rfl⟩
  | false =>
    cases hpending : c.sink.pending with
    | nil =>
      rw [dispatchNext_of_nil hpending]
      exact ⟨rfl, [], (List.append_nil _).symm, hpending.symm⟩
    | cons path rest =>
      obtain ⟨hdeeds, hrest, -⟩ := leaves_dispatchNext hcapacity hpending
      refine ⟨?_, [path], ?_, by rw [hrest]; rfl⟩
      · rw [rolled, hdeeds, List.filterMap_append]
        exact List.append_nil _
      · rw [dispatched, hdeeds, List.filterMap_append]
        rfl

theorem Step.of_rolled {path : Path} (step : Step outside deliveries c c')
    (hrolled : c'.rolled = c.rolled ++ [path]) :
    (c.sink.atCapacity = true ∧ c'.dispatched = c.dispatched ∧
        c'.sink.pending = c.sink.pending ++ [path]) ∨
      (c.sink.atCapacity = false ∧ c'.sink.pending <:+ c.sink.pending ∧
        ∃ more, c'.dispatched = c.dispatched ++ path :: more) := by
  rcases step.shifts with ⟨shifts, -⟩ | ⟨rfl, -⟩
  · have hnone : ∀ {deeds : List Deed}, c'.deeds = c.deeds ++ deeds →
        deeds.filterMap Deed.rolled? ≠ [] := by
      rintro deeds hdeeds hnil
      rw [Course.rolled, hdeeds, List.filterMap_append, hnil, List.append_nil] at hrolled
      exact absurd hrolled (by simp [Course.rolled])
    cases shifts with
    | rolls rolls =>
      rcases rolls.of_rolled hrolled with h | ⟨room, hdispatched, hpending⟩
      · exact .inl h
      · exact .inr ⟨room, hpending ▸ List.suffix_refl _, [], hdispatched⟩
    | leaves path said => exact absurd rfl (hnone said)
    | ends path said => exact absurd rfl (hnone said)
    | returns path e said => exact absurd rfl (hnone said)
  · obtain ⟨hsame, more, hdispatched, hpending⟩ := dispatchNext_takes c.due
    rw [hsame] at hrolled
    rcases (rollShifts_due c).of_rolled hrolled with
      ⟨full, hwaits, hqueue⟩ | ⟨room, hpasses, hqueue⟩
    · refine .inl ⟨full, ?_⟩
      cases rollShifts_due c with
      | rests deeds quiet said pending inFlight =>
        rw [pending] at hqueue
        exact absurd hqueue (by simp)
      | waits path' before after quiet quiet' said full' pending inFlight =>
        have hfull := (atCapacity_eq (due_settings c) inFlight).trans full
        rw [dispatchNext_of_full hfull]
        exact ⟨hwaits, hqueue⟩
      | passes path' before after quiet quiet' said room pending inFlight =>
        rw [pending] at hqueue
        exact absurd hqueue (by simp)
    · refine .inr ⟨room, ⟨more, ?_⟩, more, ?_⟩
      · rw [← hpending, hqueue]
      · rw [hdispatched, hpasses, List.append_assoc]
        rfl

/-- Only a tick that succeeds takes a file from the queue. -/
theorem Step.alone (step : Step outside deliveries c c')
    (taken : ¬ c.sink.pending <+: c'.sink.pending) :
    c' = c.tick ∧ (c.sink.tick c.world).1 = .ok () := by
  rcases step.shifts with ⟨-, hkept⟩ | ⟨-, htick⟩
  · exact absurd hkept taken
  · exact htick

structure Limited (limit : Option Nat) (queued : List Path)
    (outside deliveries : World → World → Prop) (c : Course) : Prop where
  within : ∀ most, limit = some most → c.outstanding ≤ most
  /-- A file that is rolled over waits exactly when as many uploads as allowed are outstanding. -/
  waits : ∀ {c' : Course} {path : Path}, Step outside deliveries c c' →
    c'.rolled = c.rolled ++ [path] →
      (c'.sink.pending = c.sink.pending ++ [path] ↔ limit = some c.outstanding)
  passes : ∀ {c' : Course} {path : Path}, Step outside deliveries c c' →
    c'.rolled = c.rolled ++ [path] → limit ≠ some c.outstanding →
      c'.sink.pending <:+ c.sink.pending ∧ ∃ more, c'.dispatched = c.dispatched ++ path :: more
  /-- A tick that does not fail takes the first file when there is room behind its rollover. -/
  takes : ∀ {path : Path} {rest : List Path}, (c.sink.tick c.world).1 = .ok () →
    (∀ most, limit = some most → c.due.outstanding < most) → c.due.sink.pending = path :: rest →
      c.tick.dispatched = c.due.dispatched ++ [path] ∧ c.tick.sink.pending = rest
  rests : (c.sink.tick c.world).1 = .ok () →
    (c.due.sink.pending = [] ∨ limit = some c.due.outstanding) →
      c.tick.dispatched = c.due.dispatched ∧ c.tick.sink.pending = c.due.sink.pending
  alone : ∀ {c' : Course}, Step outside deliveries c c' →
    ¬ c.sink.pending <+: c'.sink.pending → c' = c.tick ∧ (c.sink.tick c.world).1 = .ok ()
  free : limit = none → c.sink.pending <:+ queued ++ c.failed.map Prod.fst

/-- At no time are there more uploads than allowed, and the limit alone decides which files wait. -/
theorem uploads_within_limit {settings : Settings} {destination : Option Destination} {s : Sink}
    {w w' : World} (start : Sink.start settings destination w = (.ok s, w'))
    (reached : Reached outside deliveries { sink := s, world := w', deeds := [] } c) :
    Limited settings.maxInFlight s.pending outside deliveries c := by
  have within : Within c := (within_of_start start).reached reached
  have accounts : Accounts s.pending c := by
    obtain ⟨_, _, _, _, -, -, -, -, hopen⟩ := Sink.start_ok start
    exact (accounts_of_openLive hopen).reached reached
  have hlimit : c.sink.settings.maxInFlight = settings.maxInFlight := by
    rw [reached.settings, Sink.start_settings start]
  have hfull : c.sink.atCapacity = true ↔ settings.maxInFlight = some c.outstanding := by
    rw [within.full_iff accounts.inFlight, hlimit]
  have hdue : c.due.sink.atCapacity = true ↔ settings.maxInFlight = some c.due.outstanding := by
    rw [within.due.full_iff accounts.due.inFlight, due_settings, hlimit]
  refine
    { within := fun most limit => ?_
      waits := fun step hrolled => ?_
      passes := fun step hrolled hroom => ?_
      takes := fun hok hroom hpending => ?_
      rests := fun hok h => ?_
      alone := fun step taken => step.alone taken
      free := fun limit => ?_ }
  · have hmost := within most (hlimit.trans limit)
    rwa [accounts.inFlight] at hmost
  · rcases step.of_rolled hrolled with ⟨full, -, hwaits⟩ | ⟨room, hkept, -⟩
    · exact iff_of_true hwaits (hfull.mp full)
    · refine iff_of_false (fun hwaits => ?_) fun limit => ?_
      · have hle := hkept.length_le
        rw [hwaits, List.length_append, List.length_singleton] at hle
        omega
      · rw [hfull.mpr limit] at room
        exact absurd room (by simp)
  · rcases step.of_rolled hrolled with ⟨full, -, -⟩ | ⟨-, hkept, hdispatched⟩
    · exact absurd (hfull.mp full) hroom
    · exact ⟨hkept, hdispatched⟩
  · have room : c.due.sink.atCapacity = false := by
      rw [Bool.eq_false_iff]
      intro full
      have := hroom _ (hdue.mp full)
      omega
    obtain ⟨hdeeds, hrest, -⟩ := leaves_dispatchNext room hpending
    rw [tick_of_ok hok]
    refine ⟨?_, hrest⟩
    rw [dispatched, hdeeds, List.filterMap_append]
    rfl
  · have hsame : c.tick = c.due := by
      rw [tick_of_ok hok]
      exact due_dispatchNext (h.symm.imp_left hdue.mpr)
    rw [hsame]
    exact ⟨rfl, rfl⟩
  · have queued : Unforced s.pending { sink := s, world := w', deeds := [] } := by
      change s.pending <:+ s.pending ++ []
      rw [List.append_nil]
    have hfree : s.settings.maxInFlight = none := by rw [Sink.start_settings start, limit]
    exact queued.reached reached hfree

theorem second_file_waits :
    ∃ s w,
      Sink.start { Settings.default with connection := "buf:dest".toList, maxInFlight := some 1 }
        (some (.archive .unset)) (.fresh ['w']) = (.ok s, w) ∧
      Limited (some 1) s.pending (fun _ _ => False) (fun _ _ => False)
        (rollOver (rollOver { sink := s, world := w, deeds := [] })) ∧
      (rollOver (rollOver { sink := s, world := w, deeds := [] })).outstanding = 1 ∧
      (rollOver (rollOver { sink := s, world := w, deeds := [] })).sink.pending.length = 1 := by
  have hcheck : Sink.passes (Sink.start
      { Settings.default with connection := "buf:dest".toList, maxInFlight := some 1 }
      (some (.archive .unset)) (.fresh ['w'])) (fun s w =>
        decide ((rollOver (rollOver { sink := s, world := w, deeds := [] })).outstanding = 1) &&
          decide ((rollOver (rollOver { sink := s, world := w, deeds := [] })).sink.pending.length
            = 1)) = true := by
    decide +kernel
  obtain ⟨s, w, start, hcheck⟩ := Sink.exists_of_passes hcheck
  simp only [Bool.and_eq_true, decide_eq_true_eq] at hcheck
  exact ⟨s, w, start, uploads_within_limit start (.step (.step .start (.rollOver _)) (.rollOver _)),
    hcheck⟩

/-! ### The order of the queue -/

/-- The files that deeds of one step let join the queue: what was rolled and not dispatched with it,
and what has failed. -/
def joins (deeds : List Deed) : List Path :=
  (deeds.filterMap Deed.rolled?).diff (deeds.filterMap Deed.dispatched?)
    ++ (deeds.filterMap Deed.failed?).map Prod.fst

/-- The files that deeds of one step took from the queue: what was dispatched and not just
rolled. -/
def takes (deeds : List Deed) : List Path :=
  (deeds.filterMap Deed.dispatched?).diff (deeds.filterMap Deed.rolled?)

/-- A step, and what it says it has done, in which the queue is kept in order. -/
structure InLine (c c' : Course) (deeds : List Deed) : Prop where
  said : c'.deeds = c.deeds ++ deeds
  order : c.sink.pending ++ joins deeds = takes deeds ++ c'.sink.pending

section Quiet

variable {deeds more : List Deed}

theorem joins_append_quiet (quiet : Quiet more) : joins (deeds ++ more) = joins deeds := by
  simp only [joins, List.filterMap_append, quiet.rolled, quiet.dispatched, quiet.failed,
    List.append_nil]

theorem takes_append_quiet (quiet : Quiet more) : takes (deeds ++ more) = takes deeds := by
  simp only [takes, List.filterMap_append, quiet.rolled, quiet.dispatched, List.append_nil]

theorem joins_quiet_append (quiet : Quiet more) : joins (more ++ deeds) = joins deeds := by
  simp only [joins, List.filterMap_append, quiet.rolled, quiet.dispatched, quiet.failed,
    List.nil_append]

theorem takes_quiet_append (quiet : Quiet more) : takes (more ++ deeds) = takes deeds := by
  simp only [takes, List.filterMap_append, quiet.rolled, quiet.dispatched, List.nil_append]

theorem joins_quiet (quiet : Quiet more) : joins more = [] := by
  rw [joins, quiet.rolled, quiet.dispatched, quiet.failed]
  rfl

theorem takes_quiet (quiet : Quiet more) : takes more = [] := by
  rw [takes, quiet.rolled, quiet.dispatched]
  rfl

end Quiet

theorem RollShifts.inLine (h : RollShifts c c') :
    ∃ deeds, InLine c c' deeds ∧ takes deeds = [] := by
  cases h with
  | rests deeds quiet said pending inFlight =>
    have hjoins : joins deeds = [] := joins_quiet quiet
    have htakes : takes deeds = [] := takes_quiet quiet
    refine ⟨deeds, ⟨said, ?_⟩, htakes⟩
    rw [hjoins, htakes, pending]
    exact List.append_nil _
  | waits path before after quiet quiet' said full pending inFlight =>
    refine ⟨_, ⟨said, ?_⟩, (takes_quiet_append quiet).trans (takes_append_quiet quiet')⟩
    rw [joins_quiet_append quiet, joins_append_quiet quiet', takes_quiet_append quiet,
      takes_append_quiet quiet', pending]
    rfl
  | passes path before after quiet quiet' said room pending inFlight =>
    refine ⟨_, ⟨said, ?_⟩, ?_⟩
    · rw [joins_quiet_append quiet, joins_append_quiet quiet', takes_quiet_append quiet,
        takes_append_quiet quiet', pending]
      simp [joins, takes, Deed.rolled?, Deed.dispatched?, Deed.failed?, List.filterMap_cons]
    · rw [takes_quiet_append quiet, takes_append_quiet quiet']
      simp [takes, Deed.rolled?, Deed.dispatched?, List.filterMap_cons]

theorem Shifts.inLine (h : Shifts c c') : ∃ deeds, InLine c c' deeds := by
  cases h with
  | rolls rolls =>
    obtain ⟨deeds, inLine, -⟩ := rolls.inLine
    exact ⟨deeds, inLine⟩
  | leaves path said room pending inFlight =>
    refine ⟨_, said, ?_⟩
    rw [pending]
    simp [joins, takes, Deed.rolled?, Deed.dispatched?, Deed.failed?, List.filterMap_cons]
  | ends path said pending inFlight =>
    refine ⟨_, said, ?_⟩
    rw [pending]
    exact List.append_nil _
  | returns path e said pending inFlight =>
    refine ⟨_, said, ?_⟩
    rw [pending]
    rfl

/-- A tick that finds room takes the file that has waited longest, and no other, also when it has
rolled over another one before. -/
theorem inLine_tick {path : Path} {rest : List Path} (room : c.due.sink.atCapacity = false)
    (first : c.due.sink.pending = path :: rest) :
    ∃ deeds, InLine c c.due.dispatchNext deeds ∧ takes deeds = [path] := by
  obtain ⟨hdeeds, hrest, -⟩ := leaves_dispatchNext room first
  cases rollShifts_due c with
  | rests deeds quiet said pending inFlight =>
    refine ⟨deeds ++ [.dispatched path], ⟨?_, ?_⟩, takes_quiet_append quiet⟩
    · rw [hdeeds, said, List.append_assoc]
    · rw [joins_quiet_append quiet, takes_quiet_append quiet, hrest, ← pending, first]
      exact List.append_nil _
  | waits path' before after quiet quiet' said full pending inFlight =>
    rw [atCapacity_eq (due_settings c) inFlight, full] at room
    exact absurd room (by simp)
  | passes path' before after quiet quiet' said room' pending inFlight =>
    have hjoins : joins (before ++ ([.rolled path', .dispatched path'] ++ after)
        ++ [.dispatched path]) = [] := by
      simp only [joins, List.filterMap_append, quiet.rolled, quiet.dispatched, quiet.failed,
        quiet'.rolled, quiet'.dispatched, quiet'.failed]
      simp [Deed.rolled?, Deed.dispatched?, Deed.failed?, List.filterMap_cons]
    have htakes : takes (before ++ ([.rolled path', .dispatched path'] ++ after)
        ++ [.dispatched path]) = [path] := by
      simp only [takes, List.filterMap_append, quiet.rolled, quiet.dispatched, quiet'.rolled,
        quiet'.dispatched]
      simp [Deed.rolled?, Deed.dispatched?, List.filterMap_cons]
    refine ⟨_, ⟨by rw [hdeeds, said, List.append_assoc], ?_⟩, htakes⟩
    rw [hjoins, htakes, hrest, ← pending, first]
    exact List.append_nil _

theorem Step.inLine (step : Step outside deliveries c c') : ∃ deeds, InLine c c' deeds := by
  rcases step.shifts with ⟨shifts, -⟩ | ⟨rfl, -⟩
  · exact shifts.inLine
  · cases hcapacity : c.due.sink.atCapacity with
    | true =>
      rw [due_dispatchNext (.inl hcapacity)]
      exact (Shifts.rolls (rollShifts_due c)).inLine
    | false =>
      cases hpending : c.due.sink.pending with
      | nil =>
        rw [due_dispatchNext (.inr hpending)]
        exact (Shifts.rolls (rollShifts_due c)).inLine
      | cons path rest =>
        obtain ⟨deeds, inLine, -⟩ := inLine_tick hcapacity hpending
        exact ⟨deeds, inLine⟩

/-- A course, with the number of ticks that have found room since it began, the files that have
joined the queue since then and the files that have left it. -/
inductive Line (outside deliveries : World → World → Prop) (c : Course) :
    Nat → List Path → List Path → Course → Prop where
  | start : Line outside deliveries c 0 [] [] c
  | step {rounds : Nat} {joined taken : List Path} {c' c'' : Course} {deeds : List Deed} :
      Line outside deliveries c rounds joined taken c' → Step outside deliveries c' c'' →
      c''.deeds = c'.deeds ++ deeds →
      Line outside deliveries c rounds (joined ++ joins deeds) (taken ++ takes deeds) c''
  | round {rounds : Nat} {joined taken : List Path} {c' : Course} {deeds : List Deed} :
      Line outside deliveries c rounds joined taken c' → (c'.sink.tick c'.world).1 = .ok () →
      c'.due.sink.atCapacity = false → c'.tick.deeds = c'.deeds ++ deeds →
      Line outside deliveries c (rounds + 1) (joined ++ joins deeds) (taken ++ takes deeds) c'.tick

theorem Reached.line (reached : Reached outside deliveries c c') :
    ∃ rounds joined taken, Line outside deliveries c rounds joined taken c' := by
  induction reached with
  | start => exact ⟨_, _, _, .start⟩
  | step _ step ih =>
    obtain ⟨rounds, joined, taken, line⟩ := ih
    obtain ⟨deeds, inLine⟩ := step.inLine
    exact ⟨_, _, _, line.step step inLine.said⟩

theorem InLine.of_said {deeds deeds' : List Deed} (h : InLine c c' deeds)
    (said : c'.deeds = c.deeds ++ deeds') : InLine c c' deeds' := by
  obtain rfl : deeds = deeds' := List.append_cancel_left (h.said.symm.trans said)
  exact h

theorem InLine.trans {joined taken : List Path} {deeds : List Deed} (h : InLine c' d deeds)
    (order : c.sink.pending ++ joined = taken ++ c'.sink.pending) :
    c.sink.pending ++ (joined ++ joins deeds) = taken ++ takes deeds ++ d.sink.pending := by
  rw [← List.append_assoc, order, List.append_assoc, h.order, List.append_assoc]

/-- What has left the queue and what still waits are together what waited and what has joined. -/
theorem Line.order {rounds : Nat} {joined taken : List Path}
    (line : Line outside deliveries c rounds joined taken c') :
    c.sink.pending ++ joined = taken ++ c'.sink.pending := by
  induction line with
  | start => exact List.append_nil _
  | step _ step said ih =>
    obtain ⟨_, inLine⟩ := step.inLine
    exact (inLine.of_said said).trans ih
  | @round _ _ _ c' _ _ hok _ said ih =>
    have step : Step outside deliveries c' c'.tick := .tick c'
    obtain ⟨_, inLine⟩ := step.inLine
    exact (inLine.of_said said).trans ih

/-- Each tick that finds room brings every file that waits one place forward. -/
theorem Line.progress {rounds : Nat} {joined taken : List Path}
    (line : Line outside deliveries c rounds joined taken c') :
    min rounds c.sink.pending.length ≤ taken.length := by
  induction line with
  | start => simp
  | step _ step said ih =>
    rw [List.length_append]
    omega
  | @round rounds joined taken c' deeds line hok room said ih =>
    rw [List.length_append]
    by_cases hall : c.sink.pending.length ≤ taken.length
    · omega
    · have hwaiting : c'.due.sink.pending ≠ [] := by
        intro hnil
        have hkept := (rollShifts_due c').keeps.length_le
        have hlength := congrArg List.length line.order
        rw [hnil, List.length_nil] at hkept
        rw [List.length_append, List.length_append] at hlength
        omega
      obtain ⟨path, rest, hpending⟩ := List.exists_cons_of_ne_nil hwaiting
      obtain ⟨deeds', inLine, htakes⟩ := inLine_tick room hpending
      rw [← tick_of_ok hok] at inLine
      obtain rfl : deeds' = deeds := List.append_cancel_left (inLine.said.symm.trans said)
      rw [htakes, List.length_singleton]
      omega

theorem Line.first {rounds : Nat} {joined taken : List Path}
    (line : Line outside deliveries c rounds joined taken c') :
    c.sink.pending.take rounds <+: taken := by
  have hfront : c.sink.pending.take rounds <+: taken ++ c'.sink.pending :=
    (List.take_prefix rounds _).trans (line.order ▸ List.prefix_append _ _)
  apply List.prefix_of_prefix_length_le hfront (List.prefix_append _ _)
  rw [List.length_take]
  exact line.progress

structure InOrder (outside deliveries : World → World → Prop) (c c' : Course) : Prop where
  line : ∃ rounds joined taken, Line outside deliveries c rounds joined taken c'
  order : ∀ {rounds joined taken}, Line outside deliveries c rounds joined taken c' →
    c.sink.pending ++ joined = taken ++ c'.sink.pending
  /-- A file behind `n` others is dispatched by the `n + 1`st tick that finds room. -/
  first : ∀ {rounds joined taken}, Line outside deliveries c rounds joined taken c' →
    c.sink.pending.take rounds <+: taken
  free : c.sink.settings.maxInFlight = none → c'.due.sink.atCapacity = false
  waits : ∀ {c'' path}, Step outside deliveries c' c'' → c''.rolled = c'.rolled ++ [path] →
    c'.sink.atCapacity = true →
      c''.dispatched = c'.dispatched ∧ c''.sink.pending = c'.sink.pending ++ [path]
  /-- Where there is room, what is rolled over is dispatched before all that wait. -/
  overtakes : ∀ {c'' path}, Step outside deliveries c' c'' → c''.rolled = c'.rolled ++ [path] →
    c'.sink.atCapacity = false →
      c''.sink.pending <:+ c'.sink.pending ∧ ∃ more, c''.dispatched = c'.dispatched ++ path :: more

/-- Whatever happens, files leave the queue in the order in which they have joined it. -/
theorem waiting_in_order (reached : Reached outside deliveries c c') :
    InOrder outside deliveries c c' := by
  refine
    { line := reached.line
      order := fun line => line.order
      first := fun line => line.first
      free := fun free => ?_
      waits := fun step hrolled hfull => ?_
      overtakes := fun step hrolled hroom => ?_ }
  · rw [Sink.atCapacity, due_settings, reached.settings, free]
  · rcases step.of_rolled hrolled with ⟨-, hwaits⟩ | ⟨room, -⟩
    · exact hwaits
    · exact absurd (hfull.symm.trans room) (by simp)
  · rcases step.of_rolled hrolled with ⟨full, -⟩ | ⟨-, hpasses⟩
    · exact absurd (full.symm.trans hroom) (by simp)
    · exact hpasses

/-- With one file from an earlier run in the queue, and a limit of one upload, two files are rolled
over: the first one is dispatched at once, and the second one waits its turn. -/
theorem rolled_behind_leftover :
    ∃ s w,
      Sink.start { Settings.default with connection := "buf:dest".toList, maxInFlight := some 1 }
        (some (.archive .unset)) { World.fresh ['w'] with disk := oneLeft } = (.ok s, w) ∧
      InOrder (fun _ _ => False) (fun _ _ => False) { sink := s, world := w, deeds := [] }
        (rollOver (rollOver { sink := s, world := w, deeds := [] })) ∧
      ∃ first second, (rollOver (rollOver { sink := s, world := w, deeds := [] })).dispatched
          = [first] ∧
        (rollOver (rollOver { sink := s, world := w, deeds := [] })).sink.pending
          = s.pending ++ [second] := by
  have hcheck : Sink.passes (Sink.start
      { Settings.default with connection := "buf:dest".toList, maxInFlight := some 1 }
      (some (.archive .unset)) { World.fresh ['w'] with disk := oneLeft }) (fun s w =>
        decide ((rollOver (rollOver { sink := s, world := w, deeds := [] })).dispatched
            = [⟨"buf/event-bundle.1970-01-01T00:00:00".toList⟩]) &&
          decide ((rollOver (rollOver { sink := s, world := w, deeds := [] })).sink.pending
            = s.pending ++ [⟨"buf/event-bundle.1970-01-01T00:00:00.1".toList⟩])) = true := by
    decide +kernel
  obtain ⟨s, w, start, hcheck⟩ := Sink.exists_of_passes hcheck
  simp only [Bool.and_eq_true, decide_eq_true_eq] at hcheck
  exact ⟨s, w, start, waiting_in_order (.step (.step .start (.rollOver _)) (.rollOver _)),
    _, _, hcheck⟩

/-- A file from an earlier run waits, and one that is rolled over behind it is dispatched first. -/
theorem rolled_before_leftover :
    ∃ s w older newer, Sink.start { Settings.default with connection := "buf:dest".toList }
        (some (.archive .unset)) { World.fresh ['w'] with disk := oneLeft } = (.ok s, w) ∧
      s.pending = [older] ∧
      (rollOver { sink := s, world := w, deeds := [] }).rolled = [newer] ∧
      (rollOver { sink := s, world := w, deeds := [] }).sink.pending = [older] ∧
      (tick (rollOver { sink := s, world := w, deeds := [] })).dispatched = [newer, older] ∧
      newer ≠ older := by
  have hcheck : Sink.passes (Sink.start { Settings.default with connection := "buf:dest".toList }
      (some (.archive .unset)) { World.fresh ['w'] with disk := oneLeft }) (fun s w =>
        decide (s.pending = [⟨"buf/event-bundle.1".toList⟩]) &&
          decide ((rollOver { sink := s, world := w, deeds := [] }).rolled
            = [⟨"buf/event-bundle.1970-01-01T00:00:00".toList⟩]) &&
          decide ((rollOver { sink := s, world := w, deeds := [] }).sink.pending
            = [⟨"buf/event-bundle.1".toList⟩]) &&
          decide ((tick (rollOver { sink := s, world := w, deeds := [] })).dispatched
            = [⟨"buf/event-bundle.1970-01-01T00:00:00".toList⟩,
              ⟨"buf/event-bundle.1".toList⟩])) = true := by
    decide +kernel
  obtain ⟨s, w, start, hcheck⟩ := Sink.exists_of_passes hcheck
  simp only [Bool.and_eq_true, decide_eq_true_eq] at hcheck
  obtain ⟨⟨⟨hpending, hrolled⟩, hwaits⟩, hdispatched⟩ := hcheck
  exact ⟨s, w, _, _, start, hpending, hrolled, hwaits, hdispatched, by decide⟩

end Course

end Outbox
