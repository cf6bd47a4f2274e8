import Outbox.Proofs.LiveFile.Statistics
import Outbox.Proofs.Sink.Sizes

/-!
# The sizes that a sink goes by

A sink keeps the length of its live file once more, for the rule for rolling over. As long as no
append has failed it is what the live file and its counters say, and while the live file is open it
is the length of what the file holds (`Mirrored`). Together with what the live file counts on its
own (`LiveFile.Usage.Agrees`) that is `sizes_agree`.

The one way to set them apart is a pattern with a slash under which the rollover gives the content
the name that it has (`rolled_in_place`); a sink has no such pattern.
-/

set_option autoImplicit false

namespace Outbox

namespace LiveFile.Usage

/-- The sums of an append are numbers of 64 bits as long as the lengths of files are less than half
of them, and so is the sum of all appended bytes as long as all files together are. -/
def Fits (u : Usage) : Prop :=
  ∀ {record : Bytes} {file : LiveFile} {w : World} {length : Nat},
    u.file.append record u.world = (.ok (), file, w) →
    w.disk.lengthAt? file.path = some length → length < 2 ^ 63 →
      u.file.size + record.length < UInt64.size ∧
      u.file.counters.size + record.length < UInt64.size ∧
      (u.diary.rolled.sum + length < UInt64.size →
        u.file.counters.bytes + record.length < UInt64.size)

theorem Holds.fits {u : Usage} {handle : Handle} (h : u.Holds handle) : u.Fits := by
  intro record file w length did was small
  have agrees := (h.appended did).agrees
  have hlength : file.size = length := by
    have hsize := agrees.length
    rw [was, Option.some.injEq] at hsize
    exact hsize.symm
  obtain rfl := append_eq did
  have hbalance := h.balance
  have hsize := h.size
  simp only at hlength
  simp only [UInt64.size]
  omega

end LiveFile.Usage

namespace Course

variable {c c' : Course} {most : Nat}

/-! ### One length in three places -/

/-- The length that the sink goes by is the one that the live file has counted. -/
structure OneLength (c : Course) : Prop where
  size : c.sink.fileSize = c.sink.live.size
  counted : c.sink.live.counters.size = c.sink.live.size

theorem OneLength.append {record : Bytes} (h : OneLength c)
    (took : (c.sink.append record c.world).1 = .ok ()) : OneLength (c.append record) := by
  rcases hlive : c.sink.live.append record c.world with ⟨e | _, live, w⟩
  · rw [(append_failed hlive).1] at took
    exact absurd took (by simp)
  · rw [(append_took hlive).2]
    obtain rfl := LiveFile.append_eq hlive
    exact ⟨congrArg (· + record.length) h.size, congrArg (· + record.length) h.counted⟩

theorem OneLength.rollOver (h : OneLength c) : OneLength c.rollOver := by
  rcases hlive : c.sink.live.rollOver LiveFile.stampPattern c.world with ⟨e | target, live, w⟩
  · rw [(rollOver_failed hlive).2]
    rcases LiveFile.rollOver_error hlive with rfl | ⟨reopened, rfl⟩
    · exact ⟨h.size, h.counted⟩
    · exact ⟨h.size, h.counted⟩
  · obtain ⟨s, -, arrives, hcourse⟩ := rollOver_gave hlive
    obtain ⟨w₁, handle, -, -, rfl⟩ := LiveFile.rollOver_ok hlive
    rw [hcourse]
    refine ⟨?_, ?_⟩
    · show s.fileSize = s.live.size
      rw [arrives.fileSize, arrives.live]
      rfl
    · show s.live.counters.size = s.live.size
      rw [arrives.live]
      rfl

theorem dispatchNext_live (c : Course) :
    c.dispatchNext.sink.live = c.sink.live ∧ c.dispatchNext.sink.fileSize = c.sink.fileSize := by
  simp only [Course.dispatchNext, go, Sink.dispatchNext]
  split
  · exact ⟨rfl, rfl⟩
  · split <;> exact ⟨rfl, rfl⟩

theorem OneLength.dispatchNext (h : OneLength c) : OneLength c.dispatchNext := by
  obtain ⟨hlive, hsize⟩ := dispatchNext_live c
  exact ⟨by rw [hlive, hsize, h.size], by rw [hlive, h.counted]⟩

theorem output_cases (c : Course) {record : Bytes}
    (written : ∀ e, (c.sink.output record c.world).1 ≠ .error (.write e)) :
    c.output record = c.rollOver ∨ ∃ c₁, (c₁ = c ∨ c₁ = c.rollOver) ∧
      (c₁.sink.append record c₁.world).1 = .ok () ∧ c.output record = c₁.append record := by
  have hresult := output_result c record
  have took : ∀ c₁ : Course, (c.sink.output record c.world).1
      = (c₁.sink.append record c₁.world).1 → (c₁.sink.append record c₁.world).1 = .ok () :=
    fun c₁ heq => (append_result _ _ _).resolve_right fun ⟨e, he⟩ => written e (heq.trans he)
  rw [output_eq]
  by_cases tooLong : c.sink.overflows record = true
  · rw [if_pos tooLong] at hresult ⊢
    cases hroll : (c.sink.rollOver c.world).1 with
    | error e => exact .inl rfl
    | ok target =>
      rw [hroll] at hresult
      exact .inr ⟨c.rollOver, .inr rfl, took _ hresult, rfl⟩
  · rw [if_neg tooLong] at hresult ⊢
    exact .inr ⟨c, .inl rfl, took _ hresult, rfl⟩

theorem OneLength.output {record : Bytes} (h : OneLength c)
    (written : ∀ e, (c.sink.output record c.world).1 ≠ .error (.write e)) :
    OneLength (c.output record) := by
  rcases output_cases c written with heq | ⟨c₁, rfl | rfl, took, heq⟩
  · rw [heq]
    exact h.rollOver
  · rw [heq]
    exact h.append took
  · rw [heq]
    exact h.rollOver.append took

theorem OneLength.tick (h : OneLength c) : OneLength c.tick := by
  rw [tick_eq]
  split
  · split
    · exact h.rollOver.dispatchNext
    · exact h.rollOver
  · exact h.dispatchNext

/-! ### Runs -/

/-- A call on a sink that is not an append that fails, or something beside the calls, which closes
the live file at most. -/
inductive Drive (c : Course) : Course → Prop where
  | output (record : Bytes)
      (written : ∀ e, (c.sink.output record c.world).1 ≠ .error (.write e)) :
      Drive c (c.output record)
  | rollOver : Drive c c.rollOver
  | tick : Drive c c.tick
  | aside {c' : Course} (aside : BesideCalls c c')
      (live : c'.sink.live = c.sink.live ∨ c'.sink.live = { c.sink.live with handle := none }) :
      Drive c c'

theorem Drive.call (drive : Drive c c') : Call c c' := by
  cases drive with
  | output record written => exact .output record written
  | rollOver => exact .rollOver
  | tick => exact .tick
  | aside aside _ => exact .aside aside

theorem OneLength.drive (h : OneLength c) (drive : Drive c c') : OneLength c' := by
  cases drive with
  | output record written => exact h.output written
  | rollOver => exact h.rollOver
  | tick => exact h.tick
  | aside aside live =>
    rcases live with hlive | hlive
    · exact ⟨by rw [aside.fileSize, hlive, h.size], by rw [hlive, h.counted]⟩
    · exact ⟨by rw [aside.fileSize, hlive, h.size], by rw [hlive, h.counted]⟩

theorem oneLength_of_start {settings : Settings} {destination : Option Destination} {s : Sink}
    {w₀ w : World} (start : Sink.start settings destination w₀ = (.ok s, w))
    (sound : w₀.disk.Sound) : OneLength { sink := s, world := w, deeds := [] } := by
  obtain ⟨b, w₁, hopen, -⟩ := Sink.openLive_of_start start sound
  obtain ⟨live, w₂, hlive, rfl, -⟩ := Sink.openLive_ok hopen
  obtain ⟨-, -, -, counted⟩ := LiveFile.openAt_eq hlive
  have queued := Sink.queued_leftovers (Sink.ofParts settings settings.bufferDir b live) w₂
  exact ⟨by rw [queued.fileSize, queued.live]; rfl, by rw [queued.live]; exact counted⟩

/-- The length that a sink goes by: that of its live file, by all accounts. -/
structure Mirrored (most : Nat) (c : Course) : Prop where
  size : c.sink.fileSize = c.sink.live.size
  counted : c.sink.live.counters.size = c.sink.live.size
  length : ∀ {handle : Handle}, c.sink.live.handle = some handle →
    (c.sink.live.bytes c.world.disk).length = c.sink.fileSize
  /-- A record is too long for what the live file holds. -/
  decides : ∀ {handle : Handle}, c.sink.live.handle = some handle → ∀ record,
    c.sink.overflows record = true ↔
      most < (c.sink.live.bytes c.world.disk).length + record.length
  fits : ∀ record : Bytes, c.sink.live.size < 2 ^ 63 → record.length < 2 ^ 63 →
    c.sink.fileSize + record.length < UInt64.size

theorem mirrored_of_driven {settings : Settings} {destination : Option Destination} {s : Sink}
    {w₀ w : World} (start : Sink.start settings destination w₀ = (.ok s, w))
    (sound : w₀.disk.Sound)
    (driven : Relation.ReflTransGen Drive { sink := s, world := w, deeds := [] } c) :
    Mirrored settings.maxFileSize c := by
  obtain ⟨one, sized⟩ : OneLength c ∧ Sized settings.maxFileSize (s.live.bytes w.disk) c := by
    induction driven with
    | refl => exact ⟨oneLength_of_start start sound, sized_of_start start sound⟩
    | tail _ drive ih => exact ⟨ih.1.drive drive, ih.2.call drive.call⟩
  have length : ∀ {handle : Handle}, c.sink.live.handle = some handle →
      (c.sink.live.bytes c.world.disk).length = c.sink.fileSize := by
    intro handle hhandle
    have filling := sized.filling hhandle
    rw [filling.seated.bytes, filling.bytes, filling.size]
  refine ⟨one.size, one.counted, length, fun hhandle record => ?_, fun record hlive hrecord => ?_⟩
  · rw [length hhandle, Sink.overflows, decide_eq_true_iff, sized.limit]
  · rw [one.size, UInt64.size]
    omega

end Course

open LiveFile in
/-- In every world, all lengths of a live file are one, and its counters are what was done with it,
however it is used; and a sink goes by that length, as long as none of its appends has failed. -/
theorem sizes_agree {w : World} (sound : w.disk.Sound) :
    (∀ {path : Path} {w' : World} {file : LiveFile}, openAt path w = (.ok file, w') →
      ∀ {u : Usage}, Relation.ReflTransGen Usage.Step (.ofOpened path w file w') u →
        u.Agrees ∧ u.Fits ∧ ∀ {pattern : Text},
          (∀ stamp, u.world.wall.format? pattern = some stamp → '/' ∉ stamp) →
            u.file.Leaves pattern u.world) ∧
    ∀ {settings : Settings} {destination : Option Destination} {s : Sink} {w' : World},
      Sink.start settings destination w = (.ok s, w') → ∀ {c : Course},
        Relation.ReflTransGen Course.Drive { sink := s, world := w', deeds := [] } c →
          c.Mirrored settings.maxFileSize := by
  refine ⟨?_, ?_⟩
  · intro path w' file did u used
    obtain ⟨handle, holds⟩ := Usage.holds_of_used sound did used
    exact ⟨holds.agrees, holds.fits, fun no_slash => holds.leads.leaves no_slash⟩
  · intro settings destination s w' start c driven
    exact Course.mirrored_of_driven start sound driven

/-- A record, a rollover and a longer record, for a live file and for a sink. -/
theorem sizes_agree_after_rollover :
    (∃ u : LiveFile.Usage, u.Agrees ∧ u.file.size = 2 ∧ u.file.counters.bytes = 3 ∧
      u.file.counters.rollovers = 1) ∧
    ∃ c : Course, c.Mirrored 1 ∧ c.sink.fileSize = 2 := by
  refine ⟨?_, ?_⟩
  · have hcheck : LiveFile.gives (LiveFile.openAt ⟨"live".toList⟩ (World.fresh ['w']))
        (fun file w => LiveFile.gives (file.append [97] w) fun _ first =>
          LiveFile.gives (first.1.rollOver LiveFile.stampPattern first.2) fun _ rolled =>
            LiveFile.gives (rolled.1.append [98, 99] rolled.2) fun _ second =>
              decide (second.1.size = 2)) = true := by
      decide +kernel
    obtain ⟨file, w, hopen, hcheck⟩ := LiveFile.ok_of_gives hcheck
    obtain ⟨_, ⟨file₁, w₁⟩, hfirst, hcheck⟩ := LiveFile.ok_of_gives hcheck
    obtain ⟨target, ⟨file₂, w₂⟩, hroll, hcheck⟩ := LiveFile.ok_of_gives hcheck
    obtain ⟨_, ⟨file₃, w₃⟩, hsecond, hsize⟩ := LiveFile.ok_of_gives hcheck
    have used₁ : Relation.ReflTransGen LiveFile.Usage.Step
        (.ofOpened ⟨"live".toList⟩ (World.fresh ['w']) file w)
        ⟨file₁, w₁, { found := 0, records := [[97]], rolled := [] }⟩ :=
      .single (.appended hfirst)
    obtain ⟨agrees₁, -, leaves⟩ := (sizes_agree World.fresh_sound).1 hopen used₁
    have used₃ := (used₁.tail (.rolledOver agrees₁.length hroll
      (leaves fun stamp hstamp => (LiveFile.stamp_tail hstamp).no_slash))).tail (.appended hsecond)
    have agrees := ((sizes_agree World.fresh_sound).1 hopen used₃).1
    exact ⟨_, agrees, of_decide_eq_true hsize, agrees.bytes, agrees.rollovers⟩
  · have hcheck : Sink.passes (Sink.start
        { Settings.default with connection := "buf:".toList, maxFileSize := 1 }
        (some (.scripted (.ofScript [] none))) (World.fresh ['w']))
        (fun s w =>
          let c := (Course.mk s w []).output [5]
          (s.output [5] w).1.isOk && (c.sink.output [6, 7] c.world).1.isOk &&
            decide ((c.output [6, 7]).sink.fileSize = 2)) = true := by
      decide +kernel
    obtain ⟨s, w, start, hcheck⟩ := Sink.exists_of_passes hcheck
    simp only [Bool.and_eq_true, decide_eq_true_eq] at hcheck
    obtain ⟨⟨hfirst, hsecond⟩, hsize⟩ := hcheck
    have written : ∀ {result : Except SinkError Unit}, result.isOk = true →
        ∀ e, result ≠ .error (.write e) := by
      rintro _ hok e rfl
      exact Bool.noConfusion hok
    exact ⟨_, (sizes_agree World.fresh_sound).2 start
      (.tail (.single (.output [5] (written hfirst))) (.output [6, 7] (written hsecond))), hsize⟩

/-- A world in which the file `l` is at the end of forty links, and `l.` is another name of the
directory. -/
def World.linked : World :=
  { World.fresh ['w'] with
    disk :=
      { Disk.fresh ['w'] with
        nodes := (Disk.fresh ['w']).nodes
          ++ ([['w'], ['l', '.']], .link ⟨['.']⟩)
            :: ([['w'], List.replicate 41 'l'], .file 0)
            :: (List.range 40).map fun n =>
              ([['w'], List.replicate (n + 1) 'l'], .link ⟨List.replicate (n + 2) 'l'⟩)
        contents := [[]] } }

/-- A rollover that gives the live file its own name in other words, past the forty-first link, has
counted a file that is still the live one. -/
theorem rolled_in_place :
    ∃ file w file₁ w₁ file₂ w₂, LiveFile.openAt ⟨['l']⟩ .linked = (.ok file, w) ∧
      file.append [97] w = (.ok (), file₁, w₁) ∧
      file₁.rollOver ['/', 'l'] w₁ = (.ok ⟨"l./l".toList⟩, file₂, w₂) ∧
      file₂.size = 0 ∧ file₂.counters.size = 0 ∧
      w₂.disk.lengthAt? file₂.path = some 1 := by
  have hcheck : LiveFile.gives (LiveFile.openAt ⟨['l']⟩ .linked) (fun file w =>
      LiveFile.gives (file.append [97] w) fun _ first =>
        LiveFile.gives (first.1.rollOver ['/', 'l'] first.2) fun target rolled =>
          decide (target = ⟨"l./l".toList⟩) && decide (rolled.1.size = 0) &&
            decide (rolled.1.counters.size = 0) &&
            decide (rolled.2.disk.lengthAt? rolled.1.path = some 1)) = true := by
    decide +kernel
  obtain ⟨file, w, hopen, hcheck⟩ := LiveFile.ok_of_gives hcheck
  obtain ⟨_, ⟨file₁, w₁⟩, happend, hcheck⟩ := LiveFile.ok_of_gives hcheck
  obtain ⟨target, ⟨file₂, w₂⟩, hroll, hcheck⟩ := LiveFile.ok_of_gives hcheck
  simp only [Bool.and_eq_true, decide_eq_true_eq] at hcheck
  obtain ⟨⟨⟨rfl, hsize⟩, hcounted⟩, hlength⟩ := hcheck
  exact ⟨file, w, file₁, w₁, file₂, w₂, hopen, happend, hroll, hsize, hcounted, hlength⟩

end Outbox
