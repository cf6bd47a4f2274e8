import Outbox.Proofs.LiveFile.Search
import Outbox.Proofs.Sink.Clock
import Outbox.Proofs.Sink.Neighbours
import Outbox.Proofs.Time.Stamps

/-!
# The marks of rolled files

What tells the rolled files of a sink apart is their mark: the second of the rollover, written out
as the stamp, and the number of the name that was free (`Mark.name`). Nothing but what others do
sets the wall clock, so the marks of a course are in the order of time as long as the clock is not
set back (`Marked`), and so are the names, up to rollovers within one second
(`Mark.before_name_iff`).
-/

set_option autoImplicit false

namespace Outbox

open LiveFile (InYears stampAt triedName)

/-- The second of a rollover, and the number of the name that was free. -/
structure Mark where
  second : Int
  number : Nat
  deriving DecidableEq, Repr

namespace Mark

def tail (m : Mark) : Text :=
  match m.number with
  | 0 => []
  | n + 1 => '.' :: Digits.decimal (n + 1)

def name (base : Name) (m : Mark) : Name :=
  triedName (base ++ '.' :: stampAt m.second) m.number

theorem name_eq (base : Name) (m : Mark) :
    m.name base = base ++ '.' :: (stampAt m.second ++ m.tail) := by
  obtain ⟨second, n⟩ := m
  cases n <;> simp [name, triedName, tail]

theorem name_follows (base : Name) (m : Mark) : Follows base (m.name base) := by
  have hstamp : Follows base (base ++ '.' :: stampAt m.second) :=
    ⟨_, rfl, LiveFile.stamp_tail (LiveFile.format?_stampPattern ⟨m.second, 0⟩)⟩
  obtain ⟨second, n⟩ := m
  cases n with
  | zero => exact hstamp
  | succ n => exact hstamp.numbered (n + 1)

/-- Rolled files of different seconds have names in the order of time. Within one second what
stands behind the stamp decides. -/
theorem before_name_iff (base : Name) {m m' : Mark} (h : InYears m.second) (h' : InYears m'.second)
    (le : m.second ≤ m'.second) :
    Text.Before (m.name base) (m'.name base) ↔
      (m.second = m'.second → Text.Before m.tail m'.tail) := by
  have hwidth : (stampAt m.second).length = (stampAt m'.second).length := by
    rw [LiveFile.length_stampAt h, LiveFile.length_stampAt h']
  rw [name_eq, name_eq, Text.before_append_left, Text.before_cons, Text.before_append hwidth]
  rcases Int.lt_or_eq_of_le le with lt | heq
  · have hstamps := LiveFile.before_stampAt lt h h'
    exact iff_of_true (.inr ⟨rfl, .inl hstamps⟩) fun heq => absurd heq (Int.ne_of_lt lt)
  · have hsame : ¬ Text.Before (stampAt m'.second) (stampAt m'.second) := fun h => h.asymm h
    simp [heq, hsame]

/-- Up to nine, a smaller number comes first. -/
theorem before_tail {m m' : Mark} (lt : m.number < m'.number) (bound : m'.number < 10) :
    Text.Before m.tail m'.tail := by
  obtain ⟨second, n⟩ := m
  obtain ⟨second', n'⟩ := m'
  cases n' with
  | zero => exact absurd lt (Nat.not_lt_zero _)
  | succ n' =>
    cases n with
    | zero => exact Text.before_iff.mpr ⟨rfl, by simp [tail]⟩
    | succ n => exact Text.before_cons.mpr (.inr ⟨rfl, Digits.before_decimal lt bound⟩)

end Mark

/-! ### Rollovers -/

/-- A rollover now gives the name of a mark: the second is that of the wall clock, and the names of
all smaller numbers are taken. -/
structure Mark.Given (base : Name) (live : LiveFile) (w : World) (m : Mark) : Prop where
  moved : ∃ w', live.putAway LiveFile.stampPattern w
    = .moved (live.path.withFileName (m.name base)) w'
  second : m.second = w.wall.seconds
  taken : ∀ k < m.number,
    w.disk.exists? (live.path.withFileName ({ m with number := k }.name base)) = true

theorem exists_given {base : Name} {live : LiveFile} {w w' : World} {target : Path}
    (called : live.counters.name = base)
    (h : live.putAway LiveFile.stampPattern w = .moved target w') :
    ∃ m : Mark, m.Given base live w ∧ target = live.path.withFileName (m.name base) := by
  obtain ⟨stamp, n, hstamp, htarget, taken⟩ := LiveFile.rolledName_tried (LiveFile.putAway_ok h).1
  rw [LiveFile.format?_stampPattern, Option.some.injEq] at hstamp
  rw [called, ← hstamp] at htarget taken
  subst htarget
  exact ⟨⟨w.wall.seconds, n⟩, ⟨⟨w', h⟩, rfl, taken⟩, rfl⟩

namespace Course

variable {outside deliveries : World → World → Prop} {c c' : Course}

theorem closedNames_of_unclosing {deeds : List Deed} (unclosing : Unclosing deeds) :
    deeds.filterMap Deed.closedName? = [] := by
  rw [List.filterMap_eq_nil_iff]
  intro deed hdeed
  cases deed with
  | closed q bytes => exact absurd hdeed (unclosing q bytes)
  | _ => rfl

/-- Deeds name what the live file held if it was put away, and nothing else. -/
def NamesPutAway (s : Sink) (w : World) (deeds : List Deed) : Prop :=
  deeds.filterMap Deed.closedName? = [] ∨
    ∃ target w', s.live.putAway LiveFile.stampPattern w = .moved target w' ∧
      deeds.filterMap Deed.closedName? = target.fileName?.toList

theorem namesPutAway_rollDeeds (s : Sink) (w : World) : NamesPutAway s w (rollDeeds s w) := by
  have hrolling : (rolling (s.rollOver w).1).filterMap Deed.closedName? = [] := by
    cases (s.rollOver w).1 <;> rfl
  rw [NamesPutAway, rollDeeds, List.filterMap_append, hrolling, List.append_nil]
  cases hput : s.live.putAway LiveFile.stampPattern w with
  | moved target w' =>
    refine .inr ⟨target, w', rfl, ?_⟩
    rw [closing, hput, List.filterMap_cons]
    cases hname : target.fileName? <;> simp [Deed.closedName?, hname]
  | _ => exact .inl (by rw [closing, hput]; rfl)

/-- A step gives at most one name, to what the live file held before. -/
theorem Step.names (step : Step outside deliveries c c') :
    ∃ deeds, c'.deeds = c.deeds ++ deeds ∧ NamesPutAway c.sink c.world deeds := by
  have unnamed : ∀ {deeds : List Deed}, Unclosing deeds → NamesPutAway c.sink c.world deeds :=
    fun unclosing => .inl (closedNames_of_unclosing unclosing)
  have called : ∀ {before after : List Deed} (s : Sink), NamesPutAway c.sink c.world before →
      Unclosing after → NamesPutAway c.sink c.world (before ++ started c.sink s ++ after) := by
    intro before after s hbefore hafter
    rw [NamesPutAway, List.filterMap_append, List.filterMap_append, closedNames_of_unclosing hafter,
      closedNames_of_unclosing (unclosing_started _ s), List.append_nil, List.append_nil]
    exact hbefore
  have rolls : ∀ due : Bool,
      NamesPutAway c.sink c.world (if due then rollDeeds c.sink c.world else []) := by
    intro due
    cases due with
    | false => exact .inl rfl
    | true => exact namesPutAway_rollDeeds c.sink c.world
  cases step with
  | output record => exact ⟨_, rfl, called _ (rolls _) (unclosing_taking record _)⟩
  | rollOver => exact ⟨_, rfl, called _ (namesPutAway_rollDeeds _ _) unclosing_nil⟩
  | tick => exact ⟨_, rfl, called _ (rolls _) unclosing_nil⟩
  | turn before u after => exact ⟨_, rfl, unnamed (unclosing_delivery _ _ _)⟩
  | release before u after action => exact ⟨_, rfl, unnamed (unclosing_delivery _ _ _)⟩
  | settle outcome rest => exact ⟨_, rfl, unnamed fun q bytes => by simp⟩
  | flag => exact ⟨[], (List.append_nil _).symm, .inl rfl⟩
  | handIn => exact ⟨[], (List.append_nil _).symm, .inl rfl⟩
  | close => exact ⟨[], (List.append_nil _).symm, .inl rfl⟩
  | outside => exact ⟨[], (List.append_nil _).symm, .inl rfl⟩

/-! ### Courses -/

/-- The wall clock goes on, and shows a year of four digits. -/
def Onward (w w' : World) : Prop :=
  w.wall.seconds ≤ w'.wall.seconds ∧ InYears w'.wall.seconds

/-- The names that a course has given are those of marks in the order of time. -/
structure Marked (base : Name) (marks : List Mark) (c : Course) : Prop where
  names : c.deeds.filterMap Deed.closedName? = marks.map (Mark.name base)
  ordered : marks.Pairwise fun m m' => m.second ≤ m'.second
  past : ∀ m ∈ marks, m.second ≤ c.world.wall.seconds
  years : ∀ m ∈ marks, InYears m.second
  now : InYears c.world.wall.seconds

section Marked

variable {settings : Settings} {marks : List Mark}

theorem Marked.step (h : Marked settings.baseName marks c)
    (path : c.sink.live.path = settings.bufferDir.join settings.baseName)
    (called : c.sink.live.counters.name = settings.baseName) (plain : Plain settings.baseName)
    (onward : ∀ {w w'}, outside w w' → Onward w w') (step : Step outside deliveries c c') :
    Marked settings.baseName marks c' ∨ ∃ m : Mark,
      m.Given settings.baseName c.sink.live c.world ∧
        Marked settings.baseName (marks ++ [m]) c' := by
  obtain ⟨deeds, hdeeds, hnames⟩ := step.names
  have hwall : c.world.wall.seconds ≤ c'.world.wall.seconds ∧ InYears c'.world.wall.seconds := by
    rcases step.timeless with timeless | acts
    · rw [timeless.wall]
      exact ⟨Int.le_refl _, h.now⟩
    · exact onward acts
  have past : ∀ m ∈ marks, m.second ≤ c'.world.wall.seconds :=
    fun m hm => Int.le_trans (h.past m hm) hwall.1
  rcases hnames with hnone | ⟨target, w, moved, hname⟩
  · refine .inl ⟨?_, h.ordered, past, h.years, hwall.2⟩
    rw [hdeeds, List.filterMap_append, hnone, List.append_nil, h.names]
  · obtain ⟨m, given, rfl⟩ := exists_given called moved
    have follows : Follows c.sink.live.counters.name (m.name settings.baseName) := by
      rw [called]
      exact m.name_follows _
    have hfile := (fileName?_of_follows path called plain follows).1
    refine .inr ⟨m, given, ?_, ?_, ?_, ?_, hwall.2⟩
    · rw [hdeeds, List.filterMap_append, hname, hfile, h.names, List.map_append]
      rfl
    · rw [List.pairwise_append]
      refine ⟨h.ordered, List.pairwise_singleton _ _, fun m' hm' last hlast => ?_⟩
      rw [List.mem_singleton.mp hlast, given.second]
      exact h.past m' hm'
    · intro m' hm'
      rcases List.mem_append.mp hm' with hm' | hm'
      · exact past m' hm'
      · rw [List.mem_singleton.mp hm', given.second]
        exact hwall.1
    · intro m' hm'
      rcases List.mem_append.mp hm' with hm' | hm'
      · exact h.years m' hm'
      · rw [List.mem_singleton.mp hm', given.second]
        exact h.now

theorem Marked.reached (h : Marked settings.baseName marks c)
    (path : c.sink.live.path = settings.bufferDir.join settings.baseName)
    (called : c.sink.live.counters.name = settings.baseName) (plain : Plain settings.baseName)
    (onward : ∀ {w w'}, outside w w' → Onward w w') (reached : Reached outside deliveries c c') :
    ∃ marks', Marked settings.baseName marks' c' := by
  induction reached with
  | start => exact ⟨marks, h⟩
  | step reached step ih =>
    obtain ⟨marks', hmarks⟩ := ih
    obtain hmarks | ⟨m, -, hmarks⟩ := hmarks.step (reached.same.path.trans path)
      (reached.same.name.trans called) plain onward step
    · exact ⟨_, hmarks⟩
    · exact ⟨_, hmarks⟩

end Marked

end Course

end Outbox
