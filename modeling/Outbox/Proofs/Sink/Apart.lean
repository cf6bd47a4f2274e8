import Outbox.Config.Validate
import Outbox.Proofs.Destination.Archive
import Outbox.Proofs.Sink.Accounts
import Outbox.Proofs.Sink.Conservation

/-!
# The archive and the buffer directory

A sink does not start when its archive and its buffer directory are found to be one directory. The
two are found by their paths, and an empty path, which stands for the start directory, is found
nowhere. So they are one directory exactly if the path of the buffer directory is empty and the
archive is in the start directory (`archive_apart_iff`). When they are two, an upload that ends with
a success has left the file in the archive. When they are one, it has taken the only copy away.
-/

set_option autoImplicit false

namespace Outbox

/-! ### Paths that denote directories -/

namespace Disk

variable {d : Disk} {p q : Path}

theorem sameDir_of_dirs {a b : Location} (hp : p.chars ≠ []) (hq : q.chars ≠ [])
    (ha : d.dirOf? p = some a) (hb : d.dirOf? q = some b) : d.sameDir p q = decide (a = b) := by
  rw [sameDir, locate?, locate?, (dirOf?_of_ne_nil hp).mp ha, (dirOf?_of_ne_nil hq).mp hb]

/-- The empty path stands for the start directory. -/
theorem dirOf?_of_nil {loc : Location} (hp : p.chars = []) (h : d.dirOf? p = some loc) :
    loc = d.start := by
  obtain ⟨chars⟩ := p
  subst hp
  obtain ⟨-, used, -, hwalk⟩ := dirOf?_iff.mp h
  have hstart : Walk d used d.start [] loc := hwalk
  cases hstart
  rfl

end Disk

theorem Config.plain_of_isPlainName {name : Name} (h : isPlainName name = true) : Plain name := by
  simp only [isPlainName, Bool.and_eq_true, decide_eq_true_eq, Bool.not_eq_true'] at h
  obtain ⟨⟨hne, hslash⟩, hdot⟩ := h
  refine ⟨hne, by simpa using hslash, ?_, ?_⟩
  · rintro rfl
    exact hdot rfl
  · rintro rfl
    exact hdot rfl

theorem plain_writeCheckName : Plain Sink.writeCheckName :=
  ⟨by decide, by decide, by decide, by decide⟩

namespace Sink

variable {settings : Settings} {s : Sink} {w₀ w w' : World}

theorem prepareBuffer_ok {p : Path} (h : prepareBuffer p w = (.ok (), w')) :
    w.disk.Carries w'.disk ∧ (w.disk.Sound → w'.disk.Sound) ∧
      ∃ dir, w'.disk.dirOf? p = some dir := by
  rw [prepareBuffer] at h
  split at h
  · exact absurd h (by simp)
  next d₁ hmkdirs =>
  have grows := w.disk.mkdirs_grows p
  rw [hmkdirs] at grows
  dsimp only at h
  split at h
  · exact absurd h (by simp)
  next w₂ hwrite =>
  obtain ⟨faults, d₂, hop, rfl⟩ := World.attempt_ok hwrite
  have grows := grows.trans (Disk.grows_faults d₁ faults)
  obtain ⟨hcarries, hsound, hdead⟩ := Disk.writeFile_ok hop
  have carries₂ := grows.keeps.carries.trans hcarries
  -- the name of the check was looked up in the directory
  obtain ⟨dir, hdir⟩ : ∃ dir, d₂.dirOf? p = some dir := by
    obtain ⟨goal, slash, hgoal⟩ := Disk.goal_of_writeFile hop
    obtain ⟨dir, -, -, hdir⟩ := Disk.goal_join plain_writeCheckName hgoal
    exact ⟨dir, hcarries.dirOf? hdir⟩
  -- and the check is removed, or stays
  have hend : ∃ faults' d₃, w'.disk = d₃ ∧
      (d₃ = { d₂ with faults := faults' } ∨
        Disk.remove (p.join writeCheckName) { d₂ with faults := faults' } = .ok ((), d₃)) := by
    split at h
    · next e w₃ hremove =>
      obtain ⟨faults', rfl⟩ := World.attempt_error hremove
      simp only [Prod.mk.injEq, true_and] at h
      exact ⟨faults', _, by rw [← h]; rfl, .inl rfl⟩
    · next w₃ hremove =>
      obtain ⟨faults', d₃, hop', rfl⟩ := World.attempt_ok hremove
      simp only [Prod.mk.injEq, true_and] at h
      exact ⟨faults', d₃, by rw [← h], .inr hop'⟩
  obtain ⟨faults', d₃, hw', hcase⟩ := hend
  have hfaults : d₂.Carries { d₂ with faults := faults' } :=
    (Disk.grows_faults d₂ faults').keeps.carries
  have hfinal : d₂.Carries d₃ ∧ (d₂.Sound → d₃.Sound) := by
    rcases hcase with rfl | hop'
    · exact ⟨hfaults, fun sound => sound.withFaults faults'⟩
    · have hdead' : ∀ used mid, ¬ Disk.Walk { d₂ with faults := faults' } used
          (Disk.origin { d₂ with faults := faults' } (p.join writeCheckName))
          (p.join writeCheckName).steps mid :=
        fun used mid hwalk => hdead used mid (hwalk.of_narrows (Disk.narrows_faults d₂ faults'))
      obtain ⟨hcarries', hsound'⟩ := Disk.remove_carries hdead' hop'
      exact ⟨hfaults.trans hcarries', fun sound => hsound' (sound.withFaults faults')⟩
  rw [hw']
  exact ⟨carries₂.trans hfinal.1, fun sound => hfinal.2 (hsound (grows.sound sound)),
    dir, hfinal.1.dirOf? hdir⟩

theorem start_archive {a : Archive}
    (h : start settings (some (.archive a)) w₀ = (.ok s, w)) :
    ∃ a' w₁, openLive settings settings.bufferDir (.archive a') w₁ = (.ok s, w) ∧
      a'.directory.chars ≠ [] ∧ (w₀.disk.Sound → w₁.disk.Sound) ∧
      (∃ dir, w₁.disk.dirOf? settings.bufferDir = some dir) ∧
      (∃ dest, w₁.disk.dirOf? a'.directory = some dest) ∧
      w₁.disk.sameDir a'.directory settings.bufferDir = false := by
  obtain ⟨b, b', w₁, w₂, hb, hconfigure, hprepare, hcheck, hopen⟩ := start_ok h
  rw [Option.some.injEq] at hb
  subst hb
  simp only [Destination.configure, Prod.mk.injEq] at hconfigure
  obtain ⟨hok, rfl, rfl⟩ := hconfigure
  obtain ⟨hne, hgrows, dest, hdest⟩ := Archive.configure_ok (Prod.ext hok rfl)
  obtain ⟨hcarries, hsound, hdir⟩ := prepareBuffer_ok hprepare
  refine ⟨_, w₂, hopen, hne, fun sound => hsound (hgrows.sound sound), hdir,
    ⟨dest, hcarries.dirOf? hdest⟩, ?_⟩
  simp only [checkApart, Destination.localDirectory] at hcheck
  split at hcheck
  · exact absurd hcheck (by simp)
  · next hsame => simpa using hsame

end Sink

namespace Course

/-! ### One directory or two -/

section Archive

variable {settings : Settings} {s : Sink} {w₀ w : World}

theorem only_of_file {bufferDir : Path} {destination : Destination} {w₁ : World} {c : Course}
    {q : Path} (opened : Sink.Opened settings bufferDir destination w₁ s w) (sound : w.disk.Sound)
    (named : Plain settings.baseName)
    (reached : Reached (fun _ _ => True) (fun _ _ => True) { sink := s, world := w, deeds := [] } c)
    (hq : q ∈ s.pending ++ c.rolled) :
    ∃ other, q.fileName? = some other ∧ ∀ {d : Disk} {dir : Location},
      d.dirOf? bufferDir = some dir → d.Only q dir other := by
  have hname : s.live.counters.name = settings.baseName := by
    have hlive := opened.name
    rw [opened.path, (Path.endsIn_join bufferDir named.no_slash).fileName? named,
      Option.some.injEq] at hlive
    exact hlive.symm
  rcases List.mem_append.mp hq with hq | hq
  · rcases opened.pending with hnil | hscan
    · rw [hnil] at hq
      exact absurd hq List.not_mem_nil
    · obtain ⟨-, loc, entries, -, hperm, hfound⟩ := Leftovers.scan_ok hscan
      rw [hfound] at hq
      obtain ⟨entry, hmem, rfl⟩ := List.mem_map.mp hq
      obtain ⟨hmem, hrolled⟩ := List.mem_filter.mp hmem
      obtain ⟨id, -, plain, -⟩ :=
        Leftovers.node_of_isRolled sound (hperm.mem_iff.mp hmem) hrolled
      exact ⟨entry.1, (Path.endsIn_join bufferDir plain.no_slash).fileName? plain,
        fun hdir => Disk.only_join hdir plain⟩
  · rcases reached.rolled hq with hq | ⟨other, follows, rfl⟩
    · exact absurd hq List.not_mem_nil
    · have valid := opened.valid
      change Follows s.live.counters.name other at follows
      change ∃ other', (s.live.path.withFileName other).fileName? = some other' ∧ _
      rw [hname] at follows
      rw [opened.path] at valid ⊢
      have plain := follows.plain named
      have endsIn := Path.endsIn_join bufferDir named.no_slash
      have beside := Path.beside_withFileName endsIn named plain
      exact ⟨other, beside.endsIn.fileName? plain,
        fun hdir => (Disk.only_join hdir named).beside valid beside plain⟩

/-- The archive of a sink that has started is in the buffer directory exactly if the path of that
is empty and the archive is in the start directory. If they are two directories, an upload of a
file of the sink that ends with a success has left the file in the archive. -/
theorem archive_apart_iff {a : Archive}
    (start : Sink.start settings (some (.archive a)) w₀ = (.ok s, w)) (sound : w₀.disk.Sound)
    (named : Config.isPlainName settings.baseName = true) :
    ∃ a' dir dest, s.destination = .archive a' ∧ w.disk.dirOf? s.bufferDir = some dir ∧
      w.disk.dirOf? a'.directory = some dest ∧
      (dir = dest ↔ s.bufferDir.chars = [] ∧ dest = w.disk.start) ∧
      ∀ c q, Reached (fun _ _ => True) (fun _ _ => True) { sink := s, world := w, deeds := [] } c →
        q ∈ s.pending ++ c.rolled → ∃ other, q.fileName? = some other ∧
          ∀ (b : Archive) (w' : World) (bytes : Bytes), b.directory = a'.directory →
            w'.disk.Sound → w'.disk.dirOf? s.bufferDir = some dir →
            w'.disk.dirOf? a'.directory = some dest → dir ≠ dest →
            w'.disk.Linkless (dest ++ [Archive.unfinished other]) →
            w'.disk.fileAt? (dir ++ [other]) = some bytes →
            ((Upload.ofPath q).run (.archive b) w').1.result? = some (.ok ()) →
            ((Upload.ofPath q).run (.archive b) w').2.2.disk.fileAt? (dest ++ [other])
              = some bytes := by
  obtain ⟨a', w₁, hopen, hne, hsound, ⟨dir, hdir⟩, ⟨dest, hdest⟩, hsame⟩ :=
    Sink.start_archive start
  have opened := Sink.opened_of_openLive hopen
  have named : Plain settings.baseName := Config.plain_of_isPlainName named
  have hdir' := opened.carries.dirOf? hdir
  have hdest' := opened.carries.dirOf? hdest
  refine ⟨a', dir, dest, opened.goesTo, ?_, hdest', ?_, ?_⟩
  · rw [opened.holds]
    exact hdir'
  · rw [opened.holds]
    constructor
    · intro heq
      have hnil : settings.bufferDir.chars = [] := by
        by_contra hnil
        rw [Disk.sameDir_of_dirs hne hnil hdest hdir, heq] at hsame
        exact absurd hsame (by simp)
      refine ⟨hnil, ?_⟩
      rw [← heq]
      exact Disk.dirOf?_of_nil hnil hdir'
    · rintro ⟨hnil, hstart⟩
      rw [hstart]
      exact Disk.dirOf?_of_nil hnil hdir'
  · intro c q reached hq
    obtain ⟨other, hother, only⟩ := only_of_file opened (opened.sound (hsound sound)) named
      reached hq
    refine ⟨other, hother, ?_⟩
    intro b w' bytes hb sound' hdir'' hdest'' apart linkless hfile hok
    rw [opened.holds] at hdir''
    have alone : Archive.Alone dir dest other bytes (.ofPath q) (.archive b) w' :=
      { apart := apart
        sound := sound'
        only := only hdir''
        archive := ⟨b, rfl, hb ▸ Archive.leads_of_dirOf? hdest''⟩
        linkless := linkless
        source := hfile
        copied := trivial }
    exact alone.run hok

/-- With a buffer directory and an archive that have names of their own, the two are apart. -/
theorem archive_apart_beside :
    ∃ s w a' dir dest, Sink.start { Settings.default with connection := "buf:dest".toList }
        (some (.archive .unset)) (.fresh ['w']) = (.ok s, w) ∧ s.destination = .archive a' ∧
      w.disk.dirOf? s.bufferDir = some dir ∧ w.disk.dirOf? a'.directory = some dest ∧
      dir ≠ dest := by
  have hok : Sink.passes (Sink.start { Settings.default with connection := "buf:dest".toList }
      (some (.archive .unset)) (.fresh ['w'])) (fun _ _ => true) = true := by decide +kernel
  obtain ⟨s, w, hstart, -⟩ := Sink.exists_of_passes hok
  obtain ⟨a', dir, dest, hdestination, hdir, hdest, hiff, -⟩ :=
    archive_apart_iff hstart World.fresh_sound (by decide)
  refine ⟨s, w, a', dir, dest, hstart, hdestination, hdir, hdest, fun heq => ?_⟩
  have hnil := (hiff.mp heq).1
  have hbuffer : s.bufferDir = ⟨"buf".toList⟩ := by
    obtain ⟨a'', w₁, hopen, -⟩ := Sink.start_archive hstart
    exact (Sink.opened_of_openLive hopen).holds
  rw [hbuffer] at hnil
  exact absurd hnil (by decide)

/-- Nothing in front of the colon, and a point behind it: the sink starts with one directory for
both, and the first upload removes the only copy of its file. -/
theorem archive_removes_only_copy :
    ∃ s w a', Sink.start { Settings.default with connection := ":.".toList }
        (some (.archive .unset)) (.fresh ['w']) = (.ok s, w) ∧ s.destination = .archive a' ∧
      w.disk.dirOf? s.bufferDir = w.disk.dirOf? a'.directory ∧
      ∀ c s' w', c = ((Course.mk s w []).output [97]).rollOver →
        (s', w') = c.sink.advanceUploads c.world →
        c.accepted = [[97]] ∧ s'.outcomes.map (fun outcome => outcome.result.toBool) = [true] ∧
          ∀ loc bytes, w'.disk.fileAt? loc = some bytes → ¬ [97] <:+: bytes := by
  have hcheck : Sink.passes (Sink.start { Settings.default with connection := ":.".toList }
      (some (.archive .unset)) (.fresh ['w'])) (fun s w =>
        let c := ((Course.mk s w []).output [97]).rollOver
        let after := c.sink.advanceUploads c.world
        (s.destination.localDirectory.any fun p =>
            w.disk.dirOf? s.bufferDir = w.disk.dirOf? p) && c.accepted = [[97]] &&
          (after.1.outcomes.map fun outcome => outcome.result.toBool) = [true] &&
          !after.2.disk.holdsPart [97]) = true := by decide +kernel
  obtain ⟨s, w, hstart, hcheck⟩ := Sink.exists_of_passes hcheck
  obtain ⟨a', w₁, hopen, -⟩ := Sink.start_archive hstart
  have hdestination : s.destination = .archive a' := (Sink.opened_of_openLive hopen).goesTo
  simp only [hdestination, Destination.localDirectory, Option.any_some, Bool.and_eq_true,
    decide_eq_true_eq, Bool.not_eq_true'] at hcheck
  obtain ⟨⟨⟨hdirs, haccepted⟩, houtcomes⟩, hlost⟩ := hcheck
  refine ⟨s, w, a', hstart, hdestination, hdirs, ?_⟩
  rintro c s' w' rfl hafter
  have hs' : s' = _ := congrArg Prod.fst hafter
  have hw' : w' = _ := congrArg Prod.snd hafter
  rw [hs', hw']
  exact ⟨haccepted, houtcomes, fun loc bytes hfile => Disk.not_part_of_file hlost hfile⟩

end Archive

end Course

end Outbox
