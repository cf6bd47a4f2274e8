import Outbox.Proofs.Disk.Changes
import Outbox.Proofs.Disk.Directories
import Outbox.Proofs.Disk.Making

/-!
# What is there already

To make a directory that is there changes nothing, and neither do those above it, which are there as
well (`mkdirs_there`). A name in a directory that is there can be opened for writing, and removed,
as long as nothing but a regular file has it.
-/

set_option autoImplicit false

namespace Outbox

namespace Path

theorem glue_pieces (t : Text) : glue (pieces t) = t := by
  induction t with
  | nil => rfl
  | cons c rest ih =>
    by_cases hc : c = '/'
    · subst hc
      rw [pieces_slash, glue_cons (pieces_ne_nil rest), ih]
      rfl
    · obtain ⟨first, others, hrest, hpieces⟩ := pieces_cons hc rest
      rw [hrest] at ih
      rw [hpieces, ← ih]
      cases others <;> rfl

theorem glue_append {front rest : List Name} (h : front ≠ []) (h' : rest ≠ []) :
    glue (front ++ rest) = glue front ++ '/' :: glue rest := by
  induction front with
  | nil => exact absurd rfl h
  | cons first front ih =>
    by_cases hfront : front = []
    · subst hfront
      exact glue_cons h'
    · rw [List.cons_append, glue_cons (by simp [hfront]), ih hfront, glue_cons hfront,
        List.append_assoc, List.cons_append]

theorem parent?_pieces {p q : Path} (h : p.parent? = some q) (hne : q.chars ≠ []) :
    ∃ first kept more, more ≠ [] ∧ pieces p.chars = (first :: kept) ++ more ∧
      ((first = [] ∧ kept = [] ∧ q = ⟨['/']⟩) ∨
        (¬(first = [] ∧ kept = []) ∧ q = ⟨glue (first :: kept)⟩)) := by
  cases hpieces : pieces p.chars with
  | nil => exact absurd hpieces (pieces_ne_nil _)
  | cons first rest =>
    rw [parent?, hpieces] at h
    obtain ⟨idle, hidle, -⟩ := dropIdleEnd_append rest
    cases hlast : (dropIdleEnd rest).reverse with
    | nil =>
      simp only [hlast] at h
      split at h
      · exact absurd h (by simp)
      · rw [← Option.some.inj h] at hne
        exact absurd rfl hne
    | cons last before =>
      simp only [hlast, Option.some.injEq] at h
      obtain ⟨idle', hidle', -⟩ := dropIdleEnd_append before.reverse
      have hrest : dropIdleEnd rest = before.reverse ++ [last] := by
        rw [← List.reverse_reverse (dropIdleEnd rest), hlast, List.reverse_cons]
      generalize dropIdleEnd before.reverse = kept at h hidle'
      have hparts : first :: rest = (first :: kept) ++ (idle' ++ [last] ++ idle) := by
        rw [hidle, hrest, hidle']
        simp
      have habs : p.isAbsolute = decide (first = []) := by
        rw [isAbsolute_of_pieces (hpieces.trans hparts)]
        simp
      refine ⟨first, kept, idle' ++ [last] ++ idle, by simp, hparts, ?_⟩
      by_cases hroot : first = [] ∧ kept = []
      · obtain ⟨rfl, rfl⟩ := hroot
        exact .inl ⟨rfl, rfl, by simpa [habs] using h.symm⟩
      · have hcond : (p.isAbsolute && decide (kept = [])) = false := by
          rw [habs]
          simpa using hroot
        rw [hcond] at h
        exact .inr ⟨hroot, by simpa using h.symm⟩

/-- The parent of a path is its beginning, and takes the same way. -/
theorem parent?_ok {p q : Path} (h : p.parent? = some q) (hne : q.chars ≠ []) :
    q.isAbsolute = p.isAbsolute ∧ q.steps <+: p.steps ∧ q.chars <+: p.chars := by
  obtain ⟨first, kept, more, hmore, hparts, hq⟩ := parent?_pieces h hne
  have hp : p.chars = glue (first :: kept) ++ '/' :: glue more := by
    rw [← glue_append (by simp) hmore, ← hparts, glue_pieces]
  have habs : p.isAbsolute = decide (first = []) := by
    rw [isAbsolute_of_pieces hparts]
    simp [hmore]
  have hsteps : p.steps = (first :: kept).filter (· ≠ []) ++ more.filter (· ≠ []) := by
    rw [steps, hparts, List.filter_append]
  rcases hq with ⟨rfl, rfl, rfl⟩ | ⟨hroot, rfl⟩
  · refine ⟨?_, ?_, ?_⟩
    · rw [habs]
      rfl
    · rw [hsteps]
      exact ⟨_, rfl⟩
    · rw [hp]
      exact ⟨_, rfl⟩
  · have hglue : pieces (glue (first :: kept)) = first :: kept := by
      refine pieces_glue (by simp) fun piece hmem => no_slash_of_mem_pieces (t := p.chars) ?_
      rw [hparts]
      exact List.mem_append_left _ hmem
    refine ⟨?_, ?_, ?_⟩
    · rw [isAbsolute_of_pieces (p := ⟨glue (first :: kept)⟩) hglue, habs]
      by_cases hfirst : first = []
      · have hkept : kept ≠ [] := fun hkept => hroot ⟨hfirst, hkept⟩
        simp [hfirst, hkept]
      · simp [hfirst]
    · rw [hsteps, steps, hglue]
      exact List.prefix_append _ _
    · rw [hp]
      exact List.prefix_append _ _

end Path

namespace Disk

variable {d d' : Disk} {p q : Path} {dir loc : Location} {name : Name}

/-! ### Directories that are there -/

@[simp] theorem dirOf?_faults (d : Disk) (faults : List (Option OsError)) (p : Path) :
    ({ d with faults } : Disk).dirOf? p = d.dirOf? p := by
  apply Option.ext
  intro loc
  exact ⟨(narrows_faults d faults).dirOf?, (grows_faults d faults).keeps.carries.dirOf?⟩

/-- A path is empty or leads to a directory. -/
def There (d : Disk) (p : Path) : Prop :=
  p.chars = [] ∨ ∃ loc, d.dirOf? p = some loc

theorem There.parent (h : d.There p) (hparent : p.parent? = some q) : d.There q := by
  by_cases hne : q.chars = []
  · exact .inl hne
  obtain ⟨habs, ⟨rest, hsteps⟩, ⟨tail, htail⟩⟩ := Path.parent?_ok hparent hne
  have hp : p.chars ≠ [] := by
    rw [← htail]
    simp [hne]
  obtain ⟨loc, hloc⟩ := h.resolve_left hp
  obtain ⟨hvalid, used, hused, hwalk⟩ := dirOf?_iff.mp hloc
  have valid := hvalid.resolve_left hp
  rw [← hsteps] at hwalk
  obtain ⟨used₁, used₂, mid, hwalk₁, -, rfl⟩ := hwalk.split
  have horigin : d.origin q = d.origin p := by rw [origin, origin, habs]
  refine .inr ⟨mid, dirOf?_iff.mpr ⟨.inr ⟨hne, ?_, ?_⟩, used₁, by omega, horigin ▸ hwalk₁⟩⟩
  · have hnul := valid.no_nul
    rw [← htail] at hnul
    simp only [List.contains_eq_mem, List.mem_append, not_or, decide_eq_false_iff_not] at hnul ⊢
    exact hnul.1
  · have hsize := valid.size
    rw [← htail] at hsize
    exact (size_le_append q.chars tail).trans hsize

theorem There.ancestors (h : d.There p) : ∀ q ∈ p.ancestors, d.There q := by
  rw [Path.ancestors]
  generalize p.chars.length = bound
  induction bound generalizing p with
  | zero =>
    intro q hq
    rw [Path.ancestors.go, List.mem_singleton] at hq
    exact hq ▸ h
  | succ bound ih =>
    intro q hq
    rw [Path.ancestors.go] at hq
    split at hq
    · next parent hparent =>
      rcases List.mem_cons.mp hq with rfl | hq
      · exact h
      · exact ih (h.parent hparent) q hq
    · exact List.mem_singleton.mp hq ▸ h

theorem mkdir_there (h : d.dirOf? p = some loc) (hne : p.chars ≠ []) :
    mkdir p d = .error (.os .exists) := by
  obtain ⟨hvalid, used, hused, hwalk⟩ := dirOf?_iff.mp h
  have valid := hvalid.resolve_left hne
  have hfind := (dirOf?_of_ne_nil hne).mp h
  have hpursue : ∃ found, d.pursue false p = .ok found := by
    rw [find] at hfind
    cases hpursue : d.pursue false p with
    | error e => rw [hpursue] at hfind; exact absurd hfind (by simp)
    | ok found => exact ⟨found, rfl⟩
  obtain ⟨found, hpursue⟩ := hpursue
  obtain ⟨goal, slash, hgoal⟩ := goal_of_pursue hpursue
  rw [mkdir, freeSpot, hgoal]
  cases goal with
  | here => rfl
  | entry dir name =>
    obtain ⟨front, used', hsteps, hlast, hfront, hused'⟩ := steps_of_goal hgoal
    rw [hsteps] at hwalk
    obtain ⟨used₁, used₂, mid, hwalk₁, hwalk₂, -⟩ := hwalk.split
    obtain ⟨-, rfl⟩ := hfront.unique hwalk₁
    -- the last name is that of a directory or of a link to one
    obtain ⟨node, hnode, hsize⟩ : ∃ node, d.node? (dir ++ [name]) = some node ∧
        Utf8.size name ≤ maxNameSize := by
      cases hwalk₂ with
      | dot => exact absurd rfl hlast.1
      | up => exact absurd rfl hlast.2
      | down _ _ _ hsize hnode => exact ⟨_, hnode, hsize⟩
      | link _ _ _ hsize hnode => exact ⟨_, hnode, hsize⟩
    simp only [nodeIn?_of_size hsize, hnode]

theorem attempt_mkdir_there (h : d.dirOf? p = some loc) (hne : p.chars ≠ []) :
    ∃ e faults, d.attempt (mkdir p) = (.error e, { d with faults }) ∧
      (d.faults = [] → e = .os .exists ∧ faults = []) := by
  cases hfaults : d.faults with
  | nil =>
    refine ⟨.os .exists, [], ?_, fun _ => ⟨rfl, rfl⟩⟩
    rw [attempt, hfaults]
    simp only [mkdir_there h hne, ← hfaults]
  | cons first later =>
    cases first with
    | some cause => exact ⟨.os cause, later, by rw [attempt, hfaults], by simp⟩
    | none =>
      refine ⟨.os .exists, later, ?_, by simp⟩
      rw [attempt, hfaults]
      simp only [mkdir_there (d := { d with faults := later }) (by rwa [dirOf?_faults]) hne]

theorem isDir_there {faults : List (Option OsError)} (h : d.dirOf? p = some loc)
    (hne : p.chars ≠ []) : ({ d with faults } : Disk).isDir p = true :=
  (isDir_iff hne).mpr ⟨loc, by rwa [dirOf?_faults]⟩

theorem missing_there {paths : List Path} (h : ∀ p ∈ paths, d.There p) :
    ∃ result faults, d.missing paths = (result, { d with faults }) ∧
      (∀ inner, result = .ok inner → ∀ p ∈ inner, p.chars ≠ [] ∧ ∃ loc, d.dirOf? p = some loc) ∧
      (d.faults = [] → result = .ok [] ∧ faults = []) := by
  induction paths generalizing d with
  | nil => exact ⟨.ok [], d.faults, rfl, by rintro inner ⟨⟩; simp, fun hfaults => ⟨rfl, hfaults⟩⟩
  | cons p outer ih =>
    by_cases hnil : p.chars = []
    · rw [missing, if_pos hnil]
      exact ⟨.ok [], d.faults, rfl, by rintro inner ⟨⟩; simp, fun hfaults => ⟨rfl, hfaults⟩⟩
    obtain ⟨loc, hloc⟩ := (h p (by simp)).resolve_left hnil
    obtain ⟨e, faults, hattempt, hcalm⟩ := attempt_mkdir_there hloc hnil
    have houter : ∀ q ∈ outer, ({ d with faults } : Disk).There q := by
      intro q hq
      rcases h q (List.mem_cons_of_mem _ hq) with hnil | ⟨loc, hloc⟩
      · exact .inl hnil
      · exact .inr ⟨loc, by rwa [dirOf?_faults]⟩
    obtain ⟨result, faults', hrest, hinner, -⟩ := ih houter
    simp only [dirOf?_faults] at hinner
    rw [missing, if_neg hnil, hattempt]
    split
    · next heq => exact absurd heq (by simp)
    · next heq =>
      simp only [Prod.mk.injEq, Except.error.injEq] at heq
      obtain ⟨rfl, rfl⟩ := heq
      rw [hrest]
      have busy : d.faults ≠ [] := fun hfaults => absurd (hcalm hfaults).1 (by simp)
      cases result with
      | error e => exact ⟨_, faults', rfl, by simp, fun hfaults => absurd hfaults busy⟩
      | ok rest =>
        refine ⟨_, faults', rfl, ?_, fun hfaults => absurd hfaults busy⟩
        rintro inner ⟨⟩ q hq
        rcases List.mem_cons.mp hq with rfl | hq
        · exact ⟨hnil, loc, hloc⟩
        · exact hinner rest rfl q hq
    · next heq =>
      simp only [Prod.mk.injEq, Except.error.injEq] at heq
      obtain ⟨-, rfl⟩ := heq
      rw [if_pos (isDir_there hloc hnil)]
      exact ⟨.ok [], faults, rfl, by rintro inner ⟨⟩; simp, fun hfaults => ⟨rfl, (hcalm hfaults).2⟩⟩
    · next hexists heq =>
      simp only [Prod.mk.injEq, Except.error.injEq] at heq
      obtain ⟨rfl, rfl⟩ := heq
      refine ⟨_, faults, rfl, by simp, fun hfaults => ?_⟩
      exact absurd (hcalm hfaults).1 (by simpa using hexists)

theorem mkdirEach_there {paths : List Path}
    (h : ∀ p ∈ paths, p.chars ≠ [] ∧ ∃ loc, d.dirOf? p = some loc) :
    ∃ result faults, d.mkdirEach paths = (result, { d with faults }) := by
  induction paths generalizing d with
  | nil => exact ⟨_, d.faults, rfl⟩
  | cons p rest ih =>
    obtain ⟨hne, loc, hloc⟩ := h p (by simp)
    obtain ⟨e, faults, hattempt, -⟩ := attempt_mkdir_there hloc hne
    rw [mkdirEach, hattempt]
    split
    · next heq => exact absurd heq (by simp)
    · next heq =>
      simp only [Prod.mk.injEq, Except.error.injEq] at heq
      obtain ⟨-, rfl⟩ := heq
      rw [if_pos (isDir_there hloc hne)]
      exact ih (d := { d with faults }) fun q hq => by
        simpa only [dirOf?_faults] using h q (by simp [hq])
    · next heq =>
      simp only [Prod.mk.injEq, Except.error.injEq] at heq
      obtain ⟨-, rfl⟩ := heq
      exact ⟨_, faults, rfl⟩

/-- To make a directory that is there changes nothing, and succeeds if nothing fails. -/
theorem mkdirs_there (h : d.There p) :
    ∃ result faults, d.mkdirs p = (result, { d with faults }) ∧
      (d.faults = [] → result = .ok () ∧ faults = []) := by
  obtain ⟨result, faults, hmissing, hinner, hcalm⟩ := missing_there h.ancestors
  rw [mkdirs, hmissing]
  cases result with
  | error e => exact ⟨_, faults, rfl, fun hfaults => absurd (hcalm hfaults).1 (by simp)⟩
  | ok inner =>
    have hthere : ∀ q ∈ inner.reverse,
        q.chars ≠ [] ∧ ∃ loc, ({ d with faults } : Disk).dirOf? q = some loc := by
      intro q hq
      simpa only [dirOf?_faults] using hinner inner rfl q (List.mem_reverse.mp hq)
    obtain ⟨result, faults', heach⟩ := mkdirEach_there hthere
    refine ⟨result, faults', heach, fun hfaults => ?_⟩
    obtain ⟨hok, rfl⟩ := hcalm hfaults
    obtain rfl := Except.ok.inj hok
    simp only [List.reverse_nil, mkdirEach, Prod.mk.injEq] at heach
    obtain ⟨rfl, hdisk⟩ := heach
    exact ⟨rfl, (congrArg Disk.faults hdisk).symm⟩

/-! ### Names in directories that are there -/

/-- Nothing but a regular file is at a place. -/
def Filed (d : Disk) (loc : Location) : Prop :=
  ∀ {node : Node}, d.node? loc = some node → ∃ id, node = .file id

theorem Filed.linkless (h : d.Filed loc) : d.Linkless loc := by
  intro target hnode
  obtain ⟨id, hid⟩ := h hnode
  exact absurd hid (by simp)

theorem filed_of_file {id : Nat} (h : d.node? loc = some (.file id)) : d.Filed loc := by
  intro node hnode
  rw [h, Option.some.injEq] at hnode
  exact ⟨id, hnode.symm⟩

theorem filed_of_none (h : d.node? loc = none) : d.Filed loc := by
  intro node hnode
  rw [h] at hnode
  exact absurd hnode (by simp)

theorem Filed.cases (h : d.Filed loc) :
    d.node? loc = none ∨ ∃ id, d.node? loc = some (.file id) := by
  cases hnode : d.node? loc with
  | none => exact .inl rfl
  | some node =>
    obtain ⟨id, rfl⟩ := h hnode
    exact .inr ⟨id, rfl⟩

theorem goal_of_dirOf? (h : d.dirOf? p = some dir) (plain : Plain name)
    (valid : (p.join name).Valid) : d.goal (p.join name) = .ok (.entry dir name, false) := by
  obtain ⟨-, used, hused, hwalk⟩ := dirOf?_iff.mp h
  have horigin : d.origin (p.join name) = d.origin p := by
    rw [origin, origin, Path.isAbsolute_join p plain]
  have hgoal := goal_of_walk valid (Path.steps_join p plain) plain.last (horigin ▸ hwalk) hused
  have hslash : (p.join name).chars.getLast? ≠ some '/' :=
    (Path.endsIn_join p plain.no_slash).getLast?_ne plain
  rw [hgoal, decide_eq_false hslash]

theorem openForWriting_there (hgoal : d.goal p = .ok (.entry dir name, false))
    (size : Utf8.size name ≤ maxNameSize) (filed : d.Filed (dir ++ [name])) :
    ∃ result, openForWriting p d = .ok result := by
  obtain ⟨left, hpursue⟩ := pursue_of_goal true hgoal
  rw [nodeIn?_of_size size] at hpursue
  rcases filed.cases with hnone | ⟨id, hnode⟩
  · rw [hnone] at hpursue
    exact ⟨_, by rw [openForWriting, hpursue]⟩
  · rw [hnode] at hpursue
    exact ⟨(.file id, d), by rw [openForWriting, hpursue]; rfl⟩

theorem size_of_openForWriting {handle : Handle} (hgoal : d.goal p = .ok (.entry dir name, false))
    (h : openForWriting p d = .ok (handle, d')) : Utf8.size name ≤ maxNameSize := by
  obtain ⟨left, hpursue⟩ := pursue_of_goal true hgoal
  cases hentry : d.nodeIn? dir name with
  | error e =>
    rw [hentry] at hpursue
    rw [openForWriting, hpursue] at h
    exact absurd h (by simp)
  | ok found => exact (nodeIn?_ok hentry).2

/-- A file that is opened for writing in a place where nothing else is. -/
theorem Only.openForWriting_filed {handle : Handle} (only : d.Only p dir name)
    (filed : d.Filed (dir ++ [name])) (h : Disk.openForWriting p d = .ok (handle, d')) :
    ∃ id, handle = .file id ∧ ((d.node? (dir ++ [name]) = some (.file id) ∧ d' = d) ∨
      (d.node? (dir ++ [name]) = none ∧ d.node? dir = some .dir ∧ id = d.contents.length ∧
        d' = (d.putNewFile (dir ++ [name])).1)) := by
  rcases only.openForWriting filed.linkless h with
    ⟨node, hnode, hwritable, rfl⟩ | ⟨hnone, hdir, rfl, rfl⟩
  · obtain ⟨id, rfl⟩ := filed hnode
    simp only [writable, Except.ok.injEq] at hwritable
    exact ⟨id, hwritable.symm, .inl ⟨hnode, rfl⟩⟩
  · exact ⟨_, rfl, .inr ⟨hnone, hdir, rfl, rfl⟩⟩

/-- To open it changes no other place. -/
theorem Only.openForWriting_alters {handle : Handle} (only : d.Only p dir name) (sound : d.Sound)
    (filed : d.Filed (dir ++ [name])) (h : Disk.openForWriting p d = .ok (handle, d')) :
    ∃ id, handle = .file id ∧ Alters (· = dir ++ [name]) d d' ∧
      d'.node? (dir ++ [name]) = some (.file id) ∧ d'.faults = d.faults ∧
      d'.content id = (d.fileAt? (dir ++ [name])).getD [] := by
  obtain ⟨id, rfl, ⟨hnode, rfl⟩ | ⟨hnone, hdir, rfl, rfl⟩⟩ := only.openForWriting_filed filed h
  · refine ⟨id, rfl, alters_faults sound _ d'.faults, hnode, rfl, ?_⟩
    rw [fileAt?_of_node hnode]
    rfl
  · refine ⟨_, rfl, alters_putNewFile sound hdir only.plain hnone, ?_, rfl, ?_⟩
    · rw [node?_putNewFile _ _ _ (by simp), if_pos rfl]
    · rw [content_putNewFile, fileAt?, hnone]
      simp [content]

/-- To write a whole file there changes no other place. -/
theorem Only.writeFile_alters {bytes : Bytes} (only : d.Only p dir name) (sound : d.Sound)
    (filed : d.Filed (dir ++ [name])) (h : writeFile p bytes d = .ok ((), d')) :
    Alters (· = dir ++ [name]) d d' ∧ (∃ id, d'.node? (dir ++ [name]) = some (.file id)) ∧
      d'.faults = d.faults := by
  rw [writeFile, create] at h
  cases hopen : Disk.openForWriting p d with
  | error e => rw [hopen] at h; exact absurd h (by simp)
  | ok result =>
    obtain ⟨handle, d₁⟩ := result
    obtain ⟨id, rfl, alters, hnode, hfaults, -⟩ := only.openForWriting_alters sound filed hopen
    rw [hopen] at h
    simp only [write, Except.ok.injEq, Prod.mk.injEq, true_and] at h
    subst h
    have cut := alters.trans (alters_setContent alters.sound hnode [])
    refine ⟨cut.trans (alters_setContent cut.sound hnode _), ⟨id, hnode⟩, hfaults⟩

theorem writeFile_there (bytes : Bytes) (hgoal : d.goal p = .ok (.entry dir name, false))
    (size : Utf8.size name ≤ maxNameSize) (filed : d.Filed (dir ++ [name])) :
    ∃ d', writeFile p bytes d = .ok ((), d') := by
  obtain ⟨⟨handle, d₁⟩, hopen⟩ := openForWriting_there hgoal size filed
  obtain ⟨-, only⟩ := only_of_goal hgoal
  obtain ⟨id, rfl, -⟩ := only.openForWriting_filed filed hopen
  rw [writeFile, create, hopen]
  exact ⟨_, rfl⟩

theorem remove_there {id : Nat} (hgoal : d.goal p = .ok (.entry dir name, false))
    (size : Utf8.size name ≤ maxNameSize) (hnode : d.node? (dir ++ [name]) = some (.file id)) :
    remove p d = .ok ((), d.take (dir ++ [name])) := by
  rw [remove, hgoal]
  simp only [nodeIn?_of_size size, hnode, Bool.false_eq_true, if_false]

theorem attempt_calm {α : Type} {operation : Disk → Except IoError (α × Disk)}
    (calm : d.faults = []) : d.attempt operation = match operation d with
      | .ok (a, d') => (.ok a, d')
      | .error e => (.error e, d) := by
  cases hop : operation d with
  | error e => simp only [attempt, calm, hop]
  | ok result => simp only [attempt, calm, hop]

end Disk

end Outbox
