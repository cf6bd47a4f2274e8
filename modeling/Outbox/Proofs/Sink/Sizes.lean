import Mathlib.Logic.Relation
import Outbox.Proofs.Sink.Restart
import Outbox.Proofs.Sink.Survival

/-!
# Sizes of files

A record that fits goes to the live file, and one that does not has the live file rolled over first.
So a file can be too long for two reasons only: it is one record that is too long by itself, or it
is what the live file held before the sink started. The files are counted off from the deeds, each
as the records that it was made of (`Files`), and as long as the live file is open it holds the last
of them.

This is so whatever the live file is, a regular file, a link or a device. What the calls rely on is
that nothing else touches it (`LiveFile.Rests`); in a buffer directory with a regular live file that
is what the sink's own uploads do (`Buffer.call`).
-/

set_option autoImplicit false

namespace Outbox

/-! ### Loads -/

/-- What goes into one file. -/
structure Load where
  /-- What the live file held before the first record. -/
  found : Bytes
  records : List Bytes
  deriving DecidableEq

namespace Load

def empty : Load :=
  { found := [], records := [] }

def add (b : Load) (record : Bytes) : Load :=
  { b with records := b.records ++ [record] }

def bytes (b : Load) : Bytes :=
  b.found ++ b.records.flatten

theorem bytes_add (b : Load) (record : Bytes) : (b.add record).bytes = b.bytes ++ record := by
  simp [bytes, add]

/-- How a file can stand to the most that it should hold. -/
inductive Fits (most : Nat) (found : Bytes) : Load → Prop where
  | within {b : Load} : b.bytes.length ≤ most → Fits most found b
  /-- One record that is too long by itself. -/
  | single {record : Bytes} : most < record.length →
      Fits most found { found := [], records := [record] }
  /-- What was found, too long already, and nothing else. -/
  | whole : most < found.length → Fits most found { found, records := [] }

theorem fits_found (most : Nat) (found : Bytes) : Fits most found { found, records := [] } := by
  by_cases h : most < found.length
  · exact .whole h
  · apply Fits.within
    simp only [bytes, List.flatten_nil, List.append_nil]
    omega

theorem fits_single (most : Nat) (found record : Bytes) : Fits most found (empty.add record) := by
  by_cases h : most < record.length
  · exact .single h
  · apply Fits.within
    rw [bytes_add]
    show ([] ++ record).length ≤ most
    rw [List.nil_append]
    omega

end Load

/-- The files of a sink, by what went into them. -/
structure Files where
  closed : List Load
  live : Load
  deriving DecidableEq

namespace Files

variable {f f' : Files}

def add (f : Files) (record : Bytes) : Files :=
  { f with live := f.live.add record }

def roll (f : Files) : Files :=
  { closed := f.closed ++ [f.live], live := .empty }

def after (f : Files) : Deed → Files
  | .accepted record => f.add record
  | .closed _ _ => f.roll
  | _ => f

def all (f : Files) : List Load :=
  f.closed ++ [f.live]

/-- Files and what they are later: what was closed is as it was, and the file that was live goes on
with what it held. -/
def Before (f f' : Files) : Prop :=
  ∃ records later,
    f'.all = f.closed ++ { f.live with records := f.live.records ++ records } :: later

theorem Before.after (h : f.Before f') (deed : Deed) : f.Before (f'.after deed) := by
  obtain ⟨records, later, hall⟩ := h
  cases deed with
  | accepted record =>
    rcases List.eq_nil_or_concat later with rfl | ⟨between, last, rfl⟩
    · obtain ⟨hclosed, hlive⟩ := List.append_inj' hall rfl
      rw [List.cons.injEq] at hlive
      refine ⟨records ++ [record], [], ?_⟩
      show f'.closed ++ [f'.live.add record] = _
      rw [hclosed, hlive.1, Load.add, List.append_assoc]
    · rw [List.concat_eq_append, ← List.cons_append, ← List.append_assoc] at hall
      obtain ⟨hclosed, -⟩ := List.append_inj' hall rfl
      refine ⟨records, between ++ [f'.live.add record], ?_⟩
      show f'.closed ++ [f'.live.add record] = _
      rw [hclosed, List.append_assoc, List.cons_append]
  | closed path bytes =>
    refine ⟨records, later ++ [.empty], ?_⟩
    show f'.all ++ [.empty] = _
    rw [hall, List.append_assoc, List.cons_append]
  | rolled => exact ⟨records, later, hall⟩
  | dispatched => exact ⟨records, later, hall⟩
  | delivered => exact ⟨records, later, hall⟩
  | settled => exact ⟨records, later, hall⟩

theorem before_foldl (f : Files) (deeds : List Deed) : f.Before (deeds.foldl Files.after f) := by
  induction deeds using List.reverseRecOn with
  | nil => exact ⟨[], [], by rw [List.append_nil]; rfl⟩
  | append_singleton deeds deed ih =>
    rw [List.foldl_append]
    exact ih.after deed

end Files

namespace Course

variable {most : Nat} {found : Bytes} {c c' : Course}

/-- The files of a course that began with a live file that held `found`. -/
def files (found : Bytes) (c : Course) : Files :=
  c.deeds.foldl Files.after { closed := [], live := { found, records := [] } }

theorem files_of_deeds {deeds : List Deed} (h : c'.deeds = c.deeds ++ deeds) :
    c'.files found = deeds.foldl Files.after (c.files found) := by
  rw [files, h, List.foldl_append]
  rfl

theorem after_still {deeds : List Deed} (still : Still deeds) (f : Files) :
    deeds.foldl Files.after f = f := by
  induction deeds with
  | nil => rfl
  | cons deed rest ih =>
    obtain ⟨haccepted, hclosed⟩ := still
    cases deed with
    | accepted record => exact absurd haccepted (by simp [Deed.accepted?])
    | closed path bytes => exact absurd hclosed (by simp [Deed.closed?])
    | rolled => exact ih ⟨haccepted, hclosed⟩
    | dispatched => exact ih ⟨haccepted, hclosed⟩
    | delivered => exact ih ⟨haccepted, hclosed⟩
    | settled => exact ih ⟨haccepted, hclosed⟩

theorem closed_append (c : Course) (record : Bytes) :
    ((c.append record).files found).closed = (c.files found).closed := by
  rcases hlive : c.sink.live.append record c.world with ⟨e | _, live, w⟩
  · rw [(append_failed hlive).2]
    rfl
  · rw [(append_took hlive).2]
    have hfiles := @files_of_deeds found c
      { sink := { c.sink with live, fileSize := c.sink.fileSize + record.length }, world := w
        deeds := c.deeds ++ [.accepted record] } _ rfl
    rw [hfiles]
    rfl

theorem files_rollOver (c : Course) :
    c.rollOver.files found = c.files found ∨ c.rollOver.files found = (c.files found).roll := by
  have hclosing : (closing c.sink c.world).foldl Files.after (c.files found) = c.files found ∨
      (closing c.sink c.world).foldl Files.after (c.files found) = (c.files found).roll := by
    rw [closing]
    split
    · exact .inr rfl
    · exact .inl rfl
  rcases hlive : c.sink.live.rollOver LiveFile.stampPattern c.world with ⟨e | target, live, w⟩
  · rw [(rollOver_failed hlive).2]
    rwa [files_of_deeds rfl]
  · obtain ⟨s, -, -, hcourse⟩ := rollOver_gave hlive
    rw [hcourse]
    rw [files_of_deeds (List.append_assoc _ _ _), List.foldl_append,
      after_still (still_started c.sink s).rolled]
    exact hclosing

/-! ### What holds of the sizes -/

/-- The live file is open and holds the last load. -/
structure Filling (most : Nat) (found : Bytes) (c : Course) (handle : Handle) : Prop where
  seated : c.sink.live.Seated c.world.disk handle
  bytes : handle.bytes c.world.disk = (c.files found).live.bytes
  size : c.sink.fileSize = (c.files found).live.bytes.length
  fits : (c.files found).live.Fits most found

/-- The files hold their loads, and the loads are as long as they may be. -/
structure Sized (most : Nat) (found : Bytes) (c : Course) : Prop where
  limit : c.sink.settings.maxFileSize = most
  closed : c.closed = (c.files found).closed.map Load.bytes
  fits : ∀ b ∈ (c.files found).closed, b.Fits most found
  filling : ∀ {handle : Handle}, c.sink.live.handle = some handle → Filling most found c handle

/-- What happens beside the calls: uploads go on, outcomes are taken in, the live file is closed,
others act. The live file is left alone. -/
structure BesideCalls (c c' : Course) : Prop where
  settings : c'.sink.settings = c.sink.settings
  fileSize : c'.sink.fileSize = c.sink.fileSize
  live : c'.sink.live = c.sink.live ∨ c'.sink.live.handle = none
  deeds : ∃ deeds, c'.deeds = c.deeds ++ deeds ∧ Still deeds
  rests : c.sink.live.Rests c.world.disk c'.world.disk

theorem Sized.aside (h : Sized most found c) (aside : BesideCalls c c') :
    Sized most found c' ∧ c'.files found = c.files found := by
  obtain ⟨deeds, hdeeds, still⟩ := aside.deeds
  have hfiles : c'.files found = c.files found := by
    rw [files_of_deeds hdeeds, after_still still]
  refine ⟨⟨aside.settings ▸ h.limit, ?_, ?_, fun {handle} hhandle => ?_⟩, hfiles⟩
  · rw [Course.closed, hdeeds, List.filterMap_append, still.closed, List.append_nil, hfiles]
    exact h.closed
  · rw [hfiles]
    exact h.fits
  · rcases aside.live with hlive | hnone
    · rw [hlive] at hhandle
      have filling := h.filling hhandle
      obtain ⟨seated, hbytes⟩ := aside.rests filling.seated
      refine ⟨?_, ?_, ?_, ?_⟩
      · rw [hlive]
        exact seated
      · rw [hbytes, hfiles, filling.bytes]
      · rw [aside.fileSize, hfiles, filling.size]
      · rw [hfiles]
        exact filling.fits
    · rw [hnone] at hhandle
      exact absurd hhandle (by simp)

theorem Sized.append {record : Bytes} (h : Sized most found c)
    (took : (c.sink.append record c.world).1 = .ok ())
    (room : (c.files found).live.bytes.length + record.length ≤ most ∨
      (c.files found).live = .empty) :
    Sized most found (c.append record) ∧
      (c.append record).files found = (c.files found).add record := by
  rcases hlive : c.sink.live.append record c.world with ⟨e | _, live, w⟩
  · rw [(append_failed hlive).1] at took
    exact absurd took (by simp)
  rw [(append_took hlive).2]
  have hfiles := @files_of_deeds found c
    { sink := { c.sink with live, fileSize := c.sink.fileSize + record.length }, world := w
      deeds := c.deeds ++ [.accepted record] } _ rfl
  obtain ⟨handle, _, hhandle, -, -, -, hsame⟩ := LiveFile.append_ok hlive
  have filling := h.filling hhandle
  obtain ⟨seated, hbytes⟩ := filling.seated.append hlive
  refine ⟨⟨h.limit, ?_, ?_, fun {handle'} hhandle' => ?_⟩, hfiles⟩
  · rw [hfiles, Course.closed, List.filterMap_append]
    show c.closed ++ [] = _
    rw [List.append_nil, h.closed]
    rfl
  · rw [hfiles]
    exact h.fits
  · obtain rfl : handle = handle' :=
      Option.some.inj ((hhandle.symm.trans hsame.symm).trans hhandle')
    refine ⟨seated, ?_, ?_, ?_⟩
    · rw [hfiles, hbytes, filling.bytes]
      exact (Load.bytes_add _ _).symm
    · rw [hfiles]
      show c.sink.fileSize + record.length = ((c.files found).live.add record).bytes.length
      rw [Load.bytes_add, List.length_append, filling.size]
    · rw [hfiles]
      show ((c.files found).live.add record).Fits most found
      rcases room with hroom | hempty
      · apply Load.Fits.within
        rw [Load.bytes_add, List.length_append]
        exact hroom
      · rw [hempty]
        exact Load.fits_single most found record

theorem Sized.closing {handle : Handle} {target : Path} {deeds : List Deed}
    (h : Sized most found c) (filling : Filling most found c handle)
    (settings : c'.sink.settings = c.sink.settings)
    (hdeeds : c'.deeds = c.deeds ++ .closed target (c.sink.live.bytes c.world.disk) :: deeds)
    (still : Still deeds)
    (opened : ∀ {handle' : Handle}, c'.sink.live.handle = some handle' → c'.sink.fileSize = 0 ∧
      c'.sink.live.Seated c'.world.disk handle' ∧ handle'.bytes c'.world.disk = []) :
    Sized most found c' ∧ c'.files found = (c.files found).roll := by
  have hfiles : c'.files found = (c.files found).roll := by
    rw [files_of_deeds hdeeds, List.foldl_cons, after_still still]
    rfl
  refine ⟨⟨settings ▸ h.limit, ?_, ?_, fun {handle'} hhandle => ?_⟩, hfiles⟩
  · rw [Course.closed, hdeeds, List.filterMap_append, hfiles]
    show c.closed ++ c.sink.live.bytes c.world.disk :: deeds.filterMap Deed.closed?
      = ((c.files found).closed ++ [(c.files found).live]).map Load.bytes
    rw [still.closed, List.map_append, h.closed, filling.seated.bytes, filling.bytes]
    rfl
  · intro b hb
    rw [hfiles] at hb
    rcases List.mem_append.mp hb with hb | hb
    · exact h.fits b hb
    · rw [List.mem_singleton.mp hb]
      exact filling.fits
  · obtain ⟨hsize, seated, hbytes⟩ := opened hhandle
    refine ⟨seated, ?_, ?_, ?_⟩
    · rw [hfiles, hbytes]
      rfl
    · rw [hfiles, hsize]
      rfl
    · rw [hfiles]
      exact .within (Nat.zero_le most)

theorem Arrives.fileSize {s s' : Sink} {target : Path} (h : Arrives s target s') :
    s'.fileSize = s.fileSize := by
  rcases h with rfl | rfl <;> rfl

theorem Sized.rollOver (h : Sized most found c) :
    Sized most found c.rollOver ∧ (c.rollOver.files found = (c.files found).roll ∨
      ∃ e, (c.sink.rollOver c.world).1 = .error e) := by
  have settings := rollOver_settings c
  rcases hlive : c.sink.live.rollOver LiveFile.stampPattern c.world with ⟨result, live, w⟩
  cases LiveFile.rolls (fun hhandle => (h.filling hhandle).seated) hlive with
  | kept faults unmoved hcases hdisk =>
    obtain ⟨hfailed, hcourse⟩ := rollOver_failed hlive
    rw [closing_of_unmoved unmoved] at hcourse
    have aside : BesideCalls c c.rollOver := by
      rw [hcourse]
      refine ⟨rfl, rfl, ?_, ⟨[], rfl, still_nil⟩, ?_⟩
      · rcases hcases with rfl | rfl
        · exact .inl rfl
        · exact .inr rfl
      · show c.sink.live.Rests c.world.disk w.disk
        rw [hdisk]
        exact LiveFile.rests_faults _ _ _
    exact ⟨(h.aside aside).1, .inr ⟨_, hfailed⟩⟩
  | shut target w₁ moved =>
    obtain ⟨handle, hhandle⟩ := LiveFile.open_of_moved moved
    obtain ⟨-, hcourse⟩ := rollOver_failed hlive
    rw [closing_of_moved moved] at hcourse
    rw [hcourse] at settings ⊢
    refine (h.closing (h.filling hhandle) settings rfl still_nil ?_).imp_right .inl
    exact fun hnone => absurd hnone (by simp)
  | rolled w₁ handle' moved seated empty =>
    obtain ⟨handle, hhandle⟩ := LiveFile.open_of_moved moved
    obtain ⟨s, -, arrives, hcourse⟩ := rollOver_gave hlive
    rw [closing_of_moved moved, List.append_assoc] at hcourse
    rw [hcourse] at settings ⊢
    refine (h.closing (h.filling hhandle) settings rfl
      (still_started c.sink s).rolled ?_).imp_right .inl
    intro handle'' hhandle
    rw [arrives.live] at hhandle ⊢
    obtain rfl : handle' = handle'' := Option.some.inj (seated.opened.symm.trans hhandle)
    exact ⟨arrives.fileSize, seated, empty⟩

theorem besideCalls_dispatchNext (c : Course) : BesideCalls c c.dispatchNext where
  settings := dispatchNext_settings c
  fileSize := by
    simp only [Course.dispatchNext, go, Sink.dispatchNext]
    split
    · rfl
    · split <;> rfl
  live := by
    simp only [Course.dispatchNext, go, Sink.dispatchNext]
    split
    · exact .inl rfl
    · split <;> exact .inl rfl
  deeds := by
    refine ⟨started c.sink c.sink.dispatchNext, ?_, still_started _ _⟩
    simp only [Course.dispatchNext, go, List.nil_append, List.append_nil]
  rests := fun seated => ⟨seated, rfl⟩

/-- The live file is too short for a rollover as long as it has room for the record. -/
theorem Sized.overflows_iff {handle : Handle} (h : Sized most found c)
    (filling : Filling most found c handle) (record : Bytes) :
    c.sink.overflows record = true ↔
      most < (c.files found).live.bytes.length + record.length := by
  rw [Sink.overflows, decide_eq_true_iff, h.limit, filling.size]

theorem append_result (s : Sink) (record : Bytes) (w : World) :
    (s.append record w).1 = .ok () ∨ ∃ e, (s.append record w).1 = .error (.write e) := by
  rw [Sink.append]
  split
  · exact .inr ⟨_, rfl⟩
  · exact .inl rfl

theorem output_result (c : Course) (record : Bytes) :
    (c.sink.output record c.world).1
      = if c.sink.overflows record then
          match (c.sink.rollOver c.world).1 with
          | .ok _ => (c.rollOver.sink.append record c.rollOver.world).1
          | .error e => .error e
        else (c.sink.append record c.world).1 := by
  rw [Sink.output]
  split
  · simp only [Course.rollOver, go]
    rcases c.sink.rollOver c.world with ⟨e | target, s, w⟩ <;> rfl
  · rfl

/-- A record that has been taken has gone to the live file, behind a rollover or not. -/
theorem Sized.output {record : Bytes} (h : Sized most found c)
    (written : ∀ e, (c.sink.output record c.world).1 ≠ .error (.write e)) :
    Sized most found (c.output record) ∧
      (c.sink.overflows record = true → (c.sink.output record c.world).1 = .ok () →
        (c.output record).files found = (c.files found).roll.add record) := by
  have hresult := output_result c record
  rw [output_eq]
  by_cases tooLong : c.sink.overflows record = true
  · rw [if_pos tooLong] at hresult ⊢
    obtain ⟨sized, hrolled⟩ := h.rollOver
    cases hroll : (c.sink.rollOver c.world).1 with
    | error e =>
      refine ⟨sized, fun _ hok => ?_⟩
      rw [hresult, hroll] at hok
      exact absurd hok (by simp)
    | ok target =>
      rw [hroll] at hresult hrolled
      rw [hresult] at written
      have took := (append_result _ _ _).resolve_right fun ⟨e, he⟩ => written e he
      have hfiles : c.rollOver.files found = (c.files found).roll :=
        hrolled.resolve_right fun ⟨e, he⟩ => absurd he (by simp)
      obtain ⟨happend, hadd⟩ := sized.append took (.inr (by rw [hfiles]; rfl))
      exact ⟨happend, fun _ _ => by rw [hadd, hfiles]⟩
  · refine ⟨?_, fun hover => absurd hover tooLong⟩
    rw [if_neg tooLong] at hresult ⊢
    rw [hresult] at written
    have took := (append_result _ _ _).resolve_right fun ⟨e, he⟩ => written e he
    rcases hlive : c.sink.live.append record c.world with ⟨e | _, live, w⟩
    · rw [(append_failed hlive).1] at took
      exact absurd took (by simp)
    · obtain ⟨handle, _, hhandle, -⟩ := LiveFile.append_ok hlive
      rw [h.overflows_iff (h.filling hhandle)] at tooLong
      exact (h.append took (.inl (Nat.le_of_not_lt tooLong))).1

/-! ### Calls -/

/-- A call on a sink, other than one whose append fails, or what happens beside the calls. -/
inductive Call (c : Course) : Course → Prop where
  | output (record : Bytes)
      (written : ∀ e, (c.sink.output record c.world).1 ≠ .error (.write e)) :
      Call c (c.output record)
  | rollOver : Call c c.rollOver
  | tick : Call c c.tick
  | aside {c' : Course} (aside : BesideCalls c c') : Call c c'

theorem Sized.call (h : Sized most found c) (call : Call c c') : Sized most found c' := by
  cases call with
  | output record written => exact (h.output written).1
  | rollOver => exact h.rollOver.1
  | tick =>
    rw [tick_eq]
    split
    · split
      · exact (h.rollOver.1.aside (besideCalls_dispatchNext _)).1
      · exact h.rollOver.1
    · exact (h.aside (besideCalls_dispatchNext _)).1
  | aside aside => exact (h.aside aside).1

theorem Call.deeds (call : Call c c') : ∃ deeds, c'.deeds = c.deeds ++ deeds := by
  cases call with
  | output => exact ⟨_, rfl⟩
  | rollOver => exact ⟨_, rfl⟩
  | tick => exact ⟨_, rfl⟩
  | aside aside => exact aside.deeds.imp fun _ h => h.1

theorem before_of_called (called : Relation.ReflTransGen Call c c') :
    (c.files found).Before (c'.files found) := by
  obtain ⟨deeds, hdeeds⟩ : ∃ deeds, c'.deeds = c.deeds ++ deeds := by
    induction called with
    | refl => exact ⟨[], (List.append_nil _).symm⟩
    | tail _ call ih =>
      obtain ⟨deeds, hdeeds⟩ := ih
      obtain ⟨more, hmore⟩ := call.deeds
      exact ⟨deeds ++ more, by rw [hmore, hdeeds, List.append_assoc]⟩
  rw [files_of_deeds hdeeds]
  exact Files.before_foldl _ _

/-- What is known of the files, and of the next record, as long as no append has failed. -/
structure Bounded (most : Nat) (found : Bytes) (c : Course) : Prop where
  closed : c.closed = (c.files found).closed.map Load.bytes
  closed_fits : ∀ b ∈ (c.files found).closed, b.Fits most found
  /-- The live file holds what went into it, while it is open. -/
  live : ∀ {handle : Handle}, c.sink.live.handle = some handle →
    c.sink.live.bytes c.world.disk = (c.files found).live.bytes
  live_fits : ∀ {handle : Handle}, c.sink.live.handle = some handle →
    (c.files found).live.Fits most found
  /-- The live file is rolled over before a record exactly if the record would make it too long. -/
  rolls : ∀ {handle : Handle}, c.sink.live.handle = some handle → ∀ record,
    c.output record
      = if most < (c.sink.live.bytes c.world.disk).length + record.length then
          if (c.sink.rollOver c.world).1.isOk then c.rollOver.append record else c.rollOver
        else c.append record
  once : ∀ record, ((c.output record).files found).closed = (c.files found).closed ∨
    ((c.output record).files found).closed = (c.files found).closed ++ [(c.files found).live]
  /-- A file that a record has had closed would have been too long with that record, which is the
  first one of the next file for good. -/
  greedy : ∀ {handle : Handle}, c.sink.live.handle = some handle → ∀ record,
    ((c.output record).files found).closed ≠ (c.files found).closed →
      most < (c.files found).live.bytes.length + record.length ∧
        ((c.sink.output record c.world).1 = .ok () →
          ∀ {c' : Course}, Relation.ReflTransGen Call (c.output record) c' →
            ∃ records later, (c'.files found).all = (c.files found).closed
              ++ (c.files found).live :: { found := [], records := record :: records } :: later)

theorem closed_output (c : Course) (record : Bytes) :
    ((c.output record).files found).closed = (c.files found).closed ∨
      (c.sink.overflows record = true ∧ ((c.output record).files found).closed
        = (c.files found).closed ++ [(c.files found).live]) := by
  rw [output_eq]
  by_cases tooLong : c.sink.overflows record = true
  · have hclosed : (c.rollOver.files found).closed = (c.files found).closed ∨
        (c.rollOver.files found).closed = (c.files found).closed ++ [(c.files found).live] :=
      (files_rollOver c).imp (congrArg Files.closed) (congrArg Files.closed)
    rw [if_pos tooLong]
    split
    · rw [closed_append]
      exact hclosed.imp_right fun h => ⟨tooLong, h⟩
    · exact hclosed.imp_right fun h => ⟨tooLong, h⟩
  · rw [if_neg tooLong]
    exact .inl (closed_append c record)

theorem Sized.bounded (h : Sized most found c) : Bounded most found c where
  closed := h.closed
  closed_fits := h.fits
  live := by
    intro handle hhandle
    rw [(h.filling hhandle).seated.bytes, (h.filling hhandle).bytes]
  live_fits := fun hhandle => (h.filling hhandle).fits
  rolls := by
    intro handle hhandle record
    have filling := h.filling hhandle
    have hover := h.overflows_iff filling record
    rw [filling.seated.bytes, filling.bytes, output_eq]
    by_cases tooLong : most < (c.files found).live.bytes.length + record.length
    · rw [if_pos tooLong, if_pos (hover.mpr tooLong)]
      cases (c.sink.rollOver c.world).1 <;> rfl
    · rw [if_neg tooLong, if_neg (mt hover.mp tooLong)]
  once := fun record => (closed_output c record).imp_right And.right
  greedy := by
    intro handle hhandle record hclosed
    obtain ⟨tooLong, -⟩ := (closed_output c record).resolve_left hclosed
    refine ⟨(h.overflows_iff (h.filling hhandle) record).mp tooLong, fun hok c' called => ?_⟩
    have hfiles := (h.output (by simp [hok])).2 tooLong hok
    obtain ⟨records, later, hall⟩ := @before_of_called found _ _ called
    rw [hfiles] at hall
    refine ⟨records, later, ?_⟩
    rw [hall]
    simp [Files.roll, Files.add, Load.add, Load.empty]

theorem sized_of_start {settings : Settings} {destination : Option Destination} {s : Sink}
    {w₀ w : World} (start : Sink.start settings destination w₀ = (.ok s, w))
    (sound : w₀.disk.Sound) :
    Sized settings.maxFileSize (s.live.bytes w.disk) { sink := s, world := w, deeds := [] } := by
  obtain ⟨b, w₁, hopen, sound₁⟩ := Sink.openLive_of_start start sound
  obtain ⟨handle, seated, hsize⟩ := seated_of_openLive hopen sound₁
  have hbytes : ({ found := s.live.bytes w.disk, records := [] } : Load).bytes
      = handle.bytes w.disk := by
    rw [Load.bytes, seated.bytes]
    exact List.append_nil _
  refine ⟨by rw [Sink.start_settings start], rfl, fun b hb => absurd hb List.not_mem_nil,
    fun {handle'} hhandle => ?_⟩
  obtain rfl : handle = handle' := Option.some.inj (seated.opened.symm.trans hhandle)
  exact ⟨seated, hbytes.symm, hsize.trans (congrArg List.length hbytes.symm),
    Load.fits_found _ _⟩

/-- A sink that has been started keeps the sizes of its files, whatever it is called for. -/
theorem sizes_bounded {settings : Settings} {destination : Option Destination} {s : Sink}
    {w₀ w : World} (start : Sink.start settings destination w₀ = (.ok s, w))
    (sound : w₀.disk.Sound)
    (called : Relation.ReflTransGen Call { sink := s, world := w, deeds := [] } c) :
    Bounded settings.maxFileSize (s.live.bytes w.disk) c := by
  apply Sized.bounded
  induction called with
  | refl => exact sized_of_start start sound
  | tail _ call ih => exact ih.call call

/-- A disk on which the live file is a link to a file of four bytes beside it. -/
def longLive : Disk :=
  ((emptyBuffer.putNewFile ([['w'], "buf".toList] ++ [['x']])).1.setContent 0 [1, 2, 3, 4]).put
    ([['w'], "buf".toList] ++ [Settings.default.baseName]) (.link ⟨['x']⟩)

theorem longLive_sound : longLive.Sound := by
  have added : (emptyBuffer.putNewFile ([['w'], "buf".toList] ++ [['x']])).1.Sound :=
    emptyBuffer_sound.putNewFile (by decide) ⟨by decide, by decide, by decide, by decide⟩
      (by decide)
  exact (added.setContent 0 _).putUnfiled (by decide) ⟨by decide, by decide, by decide, by decide⟩
    (by decide) (by simp)

/-- Files of three bytes at most: one that was found too long, one that the next record would have
made too long, and that record, too long by itself. -/
theorem long_files_apart :
    ∃ s w, Sink.start { Settings.default with connection := "buf:".toList, maxFileSize := 3 }
        (some (.scripted (.ofScript [] none))) { World.fresh ['w'] with disk := longLive }
        = (.ok s, w) ∧
      s.live.bytes w.disk = [1, 2, 3, 4] ∧
      Bounded 3 (s.live.bytes w.disk) (((Course.mk s w []).output [5]).output [6, 7, 8, 9]) ∧
      (((Course.mk s w []).output [5]).output [6, 7, 8, 9]).files [1, 2, 3, 4]
        = { closed := [{ found := [1, 2, 3, 4], records := [] }, { found := [], records := [[5]] }]
            live := { found := [], records := [[6, 7, 8, 9]] } } := by
  have hcheck : Sink.passes (Sink.start
      { Settings.default with connection := "buf:".toList, maxFileSize := 3 }
      (some (.scripted (.ofScript [] none))) { World.fresh ['w'] with disk := longLive })
      (fun s w =>
        let c := (Course.mk s w []).output [5]
        (s.output [5] w).1.isOk && (c.sink.output [6, 7, 8, 9] c.world).1.isOk &&
          decide (s.live.bytes w.disk = [1, 2, 3, 4]) &&
          decide ((c.output [6, 7, 8, 9]).files [1, 2, 3, 4]
            = { closed := [{ found := [1, 2, 3, 4], records := [] },
                  { found := [], records := [[5]] }]
                live := { found := [], records := [[6, 7, 8, 9]] } })) = true := by
    decide +kernel
  obtain ⟨s, w, start, hcheck⟩ := Sink.exists_of_passes hcheck
  simp only [Bool.and_eq_true, decide_eq_true_eq] at hcheck
  obtain ⟨⟨⟨hfirst, hsecond⟩, hfound⟩, hfiles⟩ := hcheck
  have written : ∀ {result : Except SinkError Unit}, result.isOk = true →
      ∀ e, result ≠ .error (.write e) := by
    rintro _ hok e rfl
    exact Bool.noConfusion hok
  refine ⟨s, w, start, hfound, ?_, hfiles⟩
  exact sizes_bounded start longLive_sound
    (.tail (.single (.output [5] (written hfirst))) (.output [6, 7, 8, 9] (written hsecond)))

/-! ### Regular live files -/

section Regular

variable {dir : Location} {name : Name} {outside deliveries : World → World → Prop}

/-- A regular live file that is what it was is left alone. -/
theorem Buffer.rests (h : Buffer dir name c) (h' : Buffer dir name c')
    (live : c'.sink.live = c.sink.live) (bytes : c'.liveBytes dir name = c.liveBytes dir name) :
    c.sink.live.Rests c.world.disk c'.world.disk := by
  intro handle seated
  obtain ⟨id, rfl, hnode⟩ := h.handle seated.opened
  obtain ⟨id', hid, hnode'⟩ := h'.handle (live ▸ seated.opened)
  obtain rfl := Handle.file.inj hid
  have site := h'.site
  rw [live] at site
  refine ⟨⟨site.sound, seated.opened, dir, ?_⟩, ?_⟩
  · rw [h.called]
    exact Disk.seats_of_file site.sound site.valid site.only hnode'
  · rw [liveBytes_of_node hnode, liveBytes_of_node hnode'] at bytes
    exact bytes

/-- With a regular live file all that a sink does are calls, as long as others leave the buffer
directory alone: its uploads take no file but their own. -/
theorem Buffer.call (h : Buffer dir name c)
    (houtside : ∀ {w w'}, outside w w' → Hands c.sink.live.path dir name w w')
    (hdeliveries : ∀ {w w'}, deliveries w w' → Hands c.sink.live.path dir name w w')
    (step : Step outside deliveries c c')
    (written : ∀ record, c' = c.output record →
      ∀ e, (c.sink.output record c.world).1 ≠ .error (.write e)) : Call c c' := by
  have h' := h.step houtside hdeliveries step
  cases step with
  | output record => exact .output record (written record rfl)
  | rollOver => exact .rollOver
  | tick => exact .tick
  | flag =>
    exact .aside ⟨rfl, rfl, .inl rfl, ⟨[], (List.append_nil _).symm, still_nil⟩,
      h.rests h' rfl rfl⟩
  | turn before u after among delivers =>
    refine .aside ⟨rfl, rfl, .inl rfl, ⟨_, rfl, still_delivery _ _ _⟩, h.rests h' rfl ?_⟩
    exact liveBytes_turn h among fun hphase => hdeliveries (delivers hphase)
  | release before u after action among delivers =>
    refine .aside ⟨rfl, rfl, .inl rfl, ⟨_, rfl, still_delivery _ _ _⟩, h.rests h' rfl ?_⟩
    exact liveBytes_of_untouched h (hdeliveries delivers)
  | handIn before u after result among ended =>
    exact .aside ⟨rfl, rfl, .inl rfl, ⟨[], (List.append_nil _).symm, still_nil⟩,
      h.rests h' rfl rfl⟩
  | settle outcome rest first =>
    obtain ⟨hlive, -, -, -, hdisk⟩ :=
      settleOutcome_sink { c.sink with outcomes := rest } outcome c.world
    refine .aside ⟨?_, ?_, .inl hlive, ⟨_, rfl, ⟨rfl, rfl⟩⟩, h.rests h' hlive ?_⟩
    · exact @Step.settings outside deliveries c _ (.settle c outcome rest first)
    · simp only [Course.settle, Sink.settleOutcome]
      split <;> rfl
    · rw [liveBytes, liveBytes, Course.settle, hdisk]
  | close =>
    obtain ⟨faults, hdisk⟩ := c.sink.live.close_disk c.world
    refine .aside ⟨rfl, rfl, .inr ?_, ⟨[], (List.append_nil _).symm, still_nil⟩, ?_⟩
    · simp only [Course.close, LiveFile.close]
      split
      · assumption
      · rfl
    · rw [Course.close, hdisk]
      exact LiveFile.rests_faults _ _ _
  | outside w acts =>
    refine .aside ⟨rfl, rfl, .inl rfl, ⟨[], (List.append_nil _).symm, still_nil⟩, h.rests h' rfl ?_⟩
    exact liveBytes_of_untouched h (houtside acts)

end Regular

end Course

end Outbox
