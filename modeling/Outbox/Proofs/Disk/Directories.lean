import Outbox.Proofs.Disk.Operations

/-!
# Making directories

Where names that are joined to a path are looked up (`dirOf?`), and that making directories
succeeds only if there is a directory in the end. To make a directory takes nothing away, so every
walk there was stays one.
-/

set_option autoImplicit false

namespace Outbox.Disk

variable {d d' : Disk} {p : Path} {dir loc : Location} {name : Name}

/-! ### The directory of a path -/

/-- The directory in which names that are joined to a path are looked up. The empty path stands for
the start directory. -/
def dirOf? (d : Disk) (p : Path) : Option Location :=
  match d.find (if p.chars = [] then ⟨['.']⟩ else p) with
  | .ok (loc, .dir) => some loc
  | _ => none

theorem dirOf?_of_ne_nil (h : p.chars ≠ []) :
    d.dirOf? p = some loc ↔ d.find p = .ok (loc, .dir) := by
  rw [dirOf?, if_neg h]
  cases d.find p with
  | error e => simp
  | ok found =>
    obtain ⟨place, node⟩ := found
    cases node <;> simp

theorem dirOf?_iff :
    d.dirOf? p = some loc ↔
      (p.chars = [] ∨ p.Valid) ∧
        ∃ used, used ≤ maxLinks ∧ Walk d used (d.origin p) p.steps loc := by
  by_cases hnil : p.chars = []
  · obtain ⟨chars⟩ := p
    subst hnil
    have hdot : d.dirOf? ⟨[]⟩ = some loc ↔ d.dirOf? ⟨['.']⟩ = some loc := Iff.rfl
    rw [hdot, dirOf?_of_ne_nil (by simp), find_dir_iff]
    have hvalid : Path.Valid ⟨['.']⟩ := ⟨by simp, by decide, by decide⟩
    have hwalk : ∀ used, Walk d used (d.origin ⟨['.']⟩) (Path.steps ⟨['.']⟩) loc ↔
        Walk d used (d.origin ⟨[]⟩) (Path.steps ⟨[]⟩) loc := by
      intro used
      constructor
      · intro h
        cases h with
        | dot _ hrest => exact hrest
        | down _ hne => exact absurd rfl hne
        | link _ hne => exact absurd rfl hne
      · intro h
        exact .dot h.isDir_start h
    simp only [hwalk]
    exact ⟨fun ⟨_, h⟩ => ⟨.inl trivial, h⟩, fun ⟨_, h⟩ => ⟨hvalid, h⟩⟩
  · rw [dirOf?_of_ne_nil hnil, find_dir_iff]
    simp [hnil]

theorem isDir_iff (h : p.chars ≠ []) : d.isDir p = true ↔ ∃ loc, d.dirOf? p = some loc := by
  simp only [dirOf?_of_ne_nil h, isDir]
  cases d.find p with
  | error e => simp
  | ok found =>
    obtain ⟨place, node⟩ := found
    cases node <;> simp

/-! ### What stays a way -/

theorem Carries.dirOf? (carries : d.Carries d') (h : d.dirOf? p = some loc) :
    d'.dirOf? p = some loc := by
  obtain ⟨hvalid, used, hused, hwalk⟩ := dirOf?_iff.mp h
  have horigin : d'.origin p = d.origin p := by rw [origin, origin, carries.start]
  exact dirOf?_iff.mpr ⟨hvalid, used, hused, horigin ▸ carries.walk hwalk⟩

/-! ### More entries -/

/-- One disk has all that another one has, and no link besides. -/
structure Grows (d d' : Disk) : Prop where
  start : d'.start = d.start
  nodes : ∀ {loc : Location} {node : Node}, d.node? loc = some node → d'.node? loc = some node
  links : ∀ {loc : Location} {target : Path},
    d'.node? loc = some (.link target) → d.node? loc = some (.link target)
  length : d.contents.length ≤ d'.contents.length
  contents : ∀ {id : Nat}, id < d.contents.length → d'.content id = d.content id
  sound : d.Sound → d'.Sound

theorem Grows.refl (d : Disk) : d.Grows d :=
  ⟨rfl, id, id, Nat.le_refl _, fun _ => rfl, id⟩

theorem grows_faults (d : Disk) (faults : List (Option OsError)) : d.Grows { d with faults } :=
  ⟨rfl, id, id, Nat.le_refl _, fun _ => rfl, fun sound => sound.withFaults faults⟩

theorem Grows.keeps (grows : d.Grows d') : d.Keeps d' :=
  ⟨grows.start, fun h => grows.nodes h, fun h => grows.nodes h⟩

theorem Grows.trans {d₁ d₂ d₃ : Disk} (h : d₁.Grows d₂) (h' : d₂.Grows d₃) : d₁.Grows d₃ where
  start := h'.start.trans h.start
  nodes := fun hnode => h'.nodes (h.nodes hnode)
  links := fun hlink => h.links (h'.links hlink)
  length := Nat.le_trans h.length h'.length
  contents := fun hid => (h'.contents (Nat.lt_of_lt_of_le hid h.length)).trans (h.contents hid)
  sound := fun sound => h'.sound (h.sound sound)

theorem freeSpot_ok (h : freeSpot p d = .ok loc) :
    ∃ dir name slash, loc = dir ++ [name] ∧ d.goal p = .ok (.entry dir name, slash) ∧
      d.node? loc = none ∧ Utf8.size name ≤ maxNameSize := by
  rw [freeSpot] at h
  cases hgoal : d.goal p with
  | error e => rw [hgoal] at h; exact absurd h (by simp)
  | ok found =>
    obtain ⟨goal, slash⟩ := found
    rw [hgoal] at h
    cases goal with
    | here place => exact absurd h (by simp)
    | entry dir name =>
      cases hentry : d.nodeIn? dir name with
      | error e => simp [hentry] at h
      | ok node =>
        obtain ⟨rfl, hsize⟩ := nodeIn?_ok hentry
        cases hnode : d.node? (dir ++ [name]) with
        | some node => simp [hentry, hnode] at h
        | none =>
          simp only [hentry, hnode, Except.ok.injEq] at h
          exact ⟨dir, name, slash, h.symm, rfl, h ▸ hnode, hsize⟩

theorem plain_of_goal {slash : Bool} (h : d.goal p = .ok (.entry dir name, slash)) :
    Plain name := by
  obtain ⟨front, used, hsteps, hlast, -⟩ := steps_of_goal h
  have hname : name ∈ p.steps := by simp [hsteps]
  obtain ⟨hpiece, hne⟩ := List.mem_filter.mp hname
  exact ⟨by simpa using hne, Path.no_slash_of_mem_pieces hpiece, hlast.1, hlast.2⟩

theorem grows_put_dir {slash : Bool} (hgoal : d.goal p = .ok (.entry dir name, slash))
    (hfree : d.node? (dir ++ [name]) = none) : d.Grows (d.put (dir ++ [name]) .dir) where
  start := rfl
  nodes := by
    intro loc node hnode
    rw [node?_put _ _ _ _ (by simp)]
    split
    · next heq =>
      rw [heq, hfree] at hnode
      exact absurd hnode (by simp)
    · exact hnode
  links := by
    intro loc target hlink
    rw [node?_put _ _ _ _ (by simp)] at hlink
    split at hlink
    · exact absurd hlink (by simp)
    · exact hlink
  length := Nat.le_refl _
  contents := fun _ => rfl
  sound := fun sound => sound.putDir (isDir_of_goal hgoal) (plain_of_goal hgoal) hfree

/-! ### Making one directory -/

theorem mkdir_ok (h : mkdir p d = .ok ((), d')) :
    d.Grows d' ∧ ∃ loc, d.node? loc = none ∧ d'.dirOf? p = some loc := by
  rw [mkdir] at h
  cases hspot : freeSpot p d with
  | error e => rw [hspot] at h; exact absurd h (by simp)
  | ok loc =>
    obtain ⟨dir, name, slash, rfl, hgoal, hfree, hsize⟩ := freeSpot_ok hspot
    rw [hspot] at h
    simp only [Except.ok.injEq, Prod.mk.injEq, true_and] at h
    subst h
    have grows := grows_put_dir hgoal hfree
    refine ⟨grows, dir ++ [name], hfree, ?_⟩
    obtain ⟨front, used, hsteps, hlast, hwalk, hused⟩ := steps_of_goal hgoal
    have hmade : (d.put (dir ++ [name]) .dir).node? (dir ++ [name]) = some .dir := by
      rw [node?_put _ _ _ _ (by simp), if_pos rfl]
    refine dirOf?_iff.mpr ⟨.inr (goal_ok hgoal).1, used, hused, ?_⟩
    rw [hsteps]
    exact (hwalk.of_keeps grows.keeps).concat_dir hlast hsize hmade

/-- An attempt to make a directory takes nothing away. -/
theorem attempt_mkdir (d : Disk) (p : Path) :
    d.Grows (d.attempt (mkdir p)).2 ∧
      ((d.attempt (mkdir p)).1 = .ok () → ∃ loc, (d.attempt (mkdir p)).2.dirOf? p = some loc) := by
  cases hattempt : d.attempt (mkdir p) with
  | mk result after =>
    cases result with
    | error e =>
      obtain ⟨faults, rfl⟩ := attempt_error hattempt
      exact ⟨grows_faults d faults, fun h => absurd h (by simp)⟩
    | ok =>
      obtain ⟨faults, hop⟩ := attempt_ok hattempt
      obtain ⟨grows, loc, -, hdir⟩ := mkdir_ok hop
      exact ⟨(grows_faults d faults).trans grows, fun _ => ⟨loc, hdir⟩⟩

/-! ### Making directories -/

/-- The directories that are missing are listed from the inside. If the innermost one is not among
them, it is there. -/
theorem missing_grows (d : Disk) (paths : List Path) :
    d.Grows (d.missing paths).2 ∧ ∀ inner p outer, paths = p :: outer →
      p.chars ≠ [] → (d.missing paths).1 = .ok inner →
        (inner = [] ∧ ∃ loc, (d.missing paths).2.dirOf? p = some loc) ∨
          ∃ rest, inner = p :: rest := by
  induction paths generalizing d with
  | nil => exact ⟨Grows.refl d, fun _ _ _ h => absurd h (by simp)⟩
  | cons p outer ih =>
    by_cases hnil : p.chars = []
    · rw [missing, if_pos hnil]
      refine ⟨Grows.refl d, ?_⟩
      rintro inner p' outer' heq hne -
      rw [List.cons.injEq] at heq
      exact absurd (heq.1 ▸ hnil) hne
    · obtain ⟨hgrows, hmade⟩ := attempt_mkdir d p
      rw [missing, if_neg hnil]
      cases hattempt : d.attempt (mkdir p) with
      | mk result after =>
        rw [hattempt] at hgrows hmade
        have hsame : ∀ inner p' outer', p :: outer = p' :: outer' →
            (∃ loc, after.dirOf? p = some loc) → (.ok [] : Except IoError (List Path)) = .ok inner →
            (inner = [] ∧ ∃ loc, after.dirOf? p' = some loc) ∨ ∃ rest, inner = p' :: rest := by
          intro inner p' outer' heq hdir hok
          rw [List.cons.injEq] at heq
          exact .inl ⟨(Except.ok.inj hok).symm, heq.1 ▸ hdir⟩
        split
        · next heq =>
          rw [Prod.mk.injEq] at heq
          obtain ⟨rfl, rfl⟩ := heq
          exact ⟨hgrows, fun inner p' outer' heq _ => hsame inner p' outer' heq (hmade rfl)⟩
        · next heq =>
          rw [Prod.mk.injEq] at heq
          obtain ⟨rfl, rfl⟩ := heq
          obtain ⟨hgrows', -⟩ := ih after
          have hgrows := hgrows.trans hgrows'
          split
          · next rest after' hrest =>
            rw [hrest] at hgrows
            refine ⟨hgrows, ?_⟩
            rintro inner p' outer' heq - hok
            rw [List.cons.injEq] at heq
            exact .inr ⟨rest, by rw [← Except.ok.inj hok, heq.1]⟩
          · next e after' hrest =>
            rw [hrest] at hgrows
            exact ⟨hgrows, fun _ _ _ _ _ hok => absurd hok (by simp)⟩
        · next heq =>
          rw [Prod.mk.injEq] at heq
          obtain ⟨rfl, rfl⟩ := heq
          split
          · next hdir =>
            exact ⟨hgrows, fun inner p' outer' heq _ =>
              hsame inner p' outer' heq ((isDir_iff hnil).mp hdir)⟩
          · exact ⟨hgrows, fun _ _ _ _ _ hok => absurd hok (by simp)⟩
        · next heq =>
          rw [Prod.mk.injEq] at heq
          obtain ⟨rfl, rfl⟩ := heq
          exact ⟨hgrows, fun _ _ _ _ _ hok => absurd hok (by simp)⟩

/-- Directories that are made one after the other: at the end the last one is there. -/
theorem mkdirEach_grows (d : Disk) (paths : List Path) :
    d.Grows (d.mkdirEach paths).2 ∧
      ∀ p outer, paths = outer ++ [p] → p.chars ≠ [] → (d.mkdirEach paths).1 = .ok () →
        ∃ loc, (d.mkdirEach paths).2.dirOf? p = some loc := by
  induction paths generalizing d with
  | nil => exact ⟨Grows.refl d, fun _ _ h => absurd h (by simp)⟩
  | cons p rest ih =>
    obtain ⟨hgrows, hmade⟩ := attempt_mkdir d p
    rw [mkdirEach]
    cases hattempt : d.attempt (mkdir p) with
    | mk result after =>
      rw [hattempt] at hgrows hmade
      -- the rest is made when this one is there
      have onward : (p.chars ≠ [] → ∃ loc, after.dirOf? p = some loc) →
          d.Grows (after.mkdirEach rest).2 ∧
            ∀ p' outer, p :: rest = outer ++ [p'] → p'.chars ≠ [] →
              (after.mkdirEach rest).1 = .ok () →
              ∃ loc, (after.mkdirEach rest).2.dirOf? p' = some loc := by
        intro hdir
        obtain ⟨hgrows', hlast⟩ := ih after
        refine ⟨hgrows.trans hgrows', ?_⟩
        intro p' outer heq hne hok
        cases outer with
        | nil =>
          rw [List.nil_append, List.cons.injEq] at heq
          obtain ⟨rfl, rfl⟩ := heq
          exact hdir hne
        | cons first outer => exact hlast p' outer (List.cons.inj heq).2 hne hok
      split
      · next heq =>
        rw [Prod.mk.injEq] at heq
        obtain ⟨rfl, rfl⟩ := heq
        exact onward fun _ => hmade rfl
      · next heq =>
        rw [Prod.mk.injEq] at heq
        obtain ⟨rfl, rfl⟩ := heq
        split
        · next hdir => exact onward fun hne => (isDir_iff hne).mp hdir
        · exact ⟨hgrows, fun _ _ _ _ hok => absurd hok (by simp)⟩
      · next heq =>
        rw [Prod.mk.injEq] at heq
        obtain ⟨rfl, rfl⟩ := heq
        exact ⟨hgrows, fun _ _ _ _ hok => absurd hok (by simp)⟩

theorem ancestors_eq (p : Path) : ∃ outer, p.ancestors = p :: outer := by
  rw [Path.ancestors]
  cases p.chars.length with
  | zero => exact ⟨[], rfl⟩
  | succ bound =>
    rw [Path.ancestors.go]
    split
    · exact ⟨_, rfl⟩
    · exact ⟨[], rfl⟩

theorem mkdirs_grows (d : Disk) (p : Path) : d.Grows (d.mkdirs p).2 := by
  rw [mkdirs]
  obtain ⟨hgrows, -⟩ := missing_grows d p.ancestors
  split
  · next inner after hmissing =>
    rw [hmissing] at hgrows
    obtain ⟨hgrows', -⟩ := mkdirEach_grows after inner.reverse
    exact hgrows.trans hgrows'
  · next e after hmissing =>
    rw [hmissing] at hgrows
    exact hgrows

theorem mkdirs_ok (h : d.mkdirs p = (.ok (), d')) (hne : p.chars ≠ []) :
    ∃ loc, d'.dirOf? p = some loc := by
  rw [mkdirs] at h
  obtain ⟨-, hmissing⟩ := missing_grows d p.ancestors
  obtain ⟨outer, houter⟩ := ancestors_eq p
  split at h
  · next inner after hinner =>
    rw [hinner] at hmissing
    rcases hmissing inner p outer houter hne rfl with ⟨rfl, hdir⟩ | ⟨rest, rfl⟩
    · rw [List.reverse_nil, mkdirEach, Prod.mk.injEq] at h
      exact h.2 ▸ hdir
    · obtain ⟨-, hlast⟩ := mkdirEach_grows after (p :: rest).reverse
      rw [h] at hlast
      exact hlast p rest.reverse List.reverse_cons hne rfl
  · exact absurd h (by simp)

/-! ### Trying a directory -/

theorem names_of_route (dir : Location) (p : Path) :
    ∀ piece ∈ (routeFrom dir p).names, piece ≠ [] ∧ '/' ∉ piece := by
  intro piece hpiece
  obtain ⟨hmem, hne⟩ := List.mem_filter.mp hpiece
  exact ⟨by simpa using hne, Path.no_slash_of_mem_pieces hmem⟩

/-- A search that has found something else than a directory has gone where no walk leads. -/
theorem no_walk_of_pursueFrom {creating : Bool} {turns links used : Nat} {r : Route}
    {found : Found} {there : Location} (h : d.pursueFrom creating turns links r = .ok found)
    (hfound : (∃ loc, found = .free loc) ∨ ∃ loc node, found = .node loc node ∧ node ≠ .dir) :
    ¬ Walk d used r.start r.names there := by
  induction turns generalizing links used r there with
  | zero => exact absurd h (by simp [pursueFrom])
  | succ turns ih =>
    intro hwalk
    rw [pursueFrom] at h
    cases happroach : d.approach links r.start r.names with
    | error e => rw [happroach] at h; exact absurd h (by simp)
    | ok result =>
      obtain ⟨goal, left⟩ := result
      rw [happroach] at h
      cases approach_ok happroach with
      | here _ _ _ _ =>
        simp only [Except.ok.injEq] at h
        subst h
        simp at hfound
      | @entry dir name _ front _ hnames hlast hfront _ =>
        rw [hnames] at hwalk
        obtain ⟨l₁, l₂, mid, hfront', hname, rfl⟩ := hwalk.split
        obtain ⟨-, rfl⟩ := hfront.unique hfront'
        have hcreating : (creating && r.slash) = false := by
          cases hslash : (creating && r.slash) with
          | false => rfl
          | true => simp [hslash] at h
        simp only [hcreating, Bool.false_eq_true, if_false] at h
        cases hname with
        | dot => exact absurd rfl hlast.1
        | up => exact absurd rfl hlast.2
        | down _ _ _ hsize hnode _ =>
          simp only [nodeIn?_of_size hsize, hnode] at h
          split at h
          · rw [← Except.ok.inj h] at hfound
            simp at hfound
          · rw [← Except.ok.inj h] at hfound
            rcases hfound with ⟨loc, hloc⟩ | ⟨loc, node, hloc, hne⟩
            · exact absurd hloc (by simp)
            · rw [Found.node.injEq] at hloc
              exact hne hloc.2.symm
        | link _ _ _ hsize hnode hrest =>
          rw [List.append_nil] at hrest
          simp only [nodeIn?_of_size hsize, hnode] at h
          cases left with
          | zero => exact absurd h (by simp)
          | succ left => exact ih h hrest

theorem free_of_pursueFrom {creating : Bool} {turns links : Nat} {r : Route}
    (hr : ∀ piece ∈ r.names, piece ≠ [] ∧ '/' ∉ piece)
    (h : d.pursueFrom creating turns links r = .ok (.free loc)) :
    ∃ dir name, loc = dir ++ [name] ∧ d.node? dir = some .dir ∧ Plain name ∧
      d.node? loc = none := by
  induction turns generalizing links r with
  | zero => exact absurd h (by simp [pursueFrom])
  | succ turns ih =>
    rw [pursueFrom] at h
    cases happroach : d.approach links r.start r.names with
    | error e => rw [happroach] at h; exact absurd h (by simp)
    | ok result =>
      obtain ⟨goal, left⟩ := result
      rw [happroach] at h
      cases approach_ok happroach with
      | here => exact absurd h (by simp)
      | @entry dir name _ front _ hnames hlast hfront _ =>
        obtain ⟨hne, hslash⟩ := hr name (by simp [hnames])
        dsimp only at h
        split at h
        · exact absurd h (by simp)
        · cases hentry : d.nodeIn? dir name with
          | error e => rw [hentry] at h; exact absurd h (by simp)
          | ok node =>
            obtain ⟨rfl, -⟩ := nodeIn?_ok hentry
            rw [hentry] at h
            cases hnode : d.node? (dir ++ [name]) with
            | none =>
              simp only [hnode] at h
              split at h
              · exact absurd h (by simp)
              · simp only [Except.ok.injEq, Found.free.injEq] at h
                exact ⟨dir, name, h.symm, hfront.isDir_end, ⟨hne, hslash, hlast.1, hlast.2⟩,
                  h ▸ hnode⟩
            | some node =>
              cases node with
              | link target =>
                cases left with
                | zero => simp [hnode] at h
                | succ left =>
                  simp only [hnode] at h
                  refine ih (fun piece hpiece => ?_) h
                  exact names_of_route dir target piece hpiece
              | dir => simp only [hnode] at h; split at h <;> exact absurd h (by simp)
              | file id => simp only [hnode] at h; split at h <;> exact absurd h (by simp)
              | full => simp only [hnode] at h; split at h <;> exact absurd h (by simp)

theorem grows_putNewFile (hdir : d.node? dir = some .dir) (hname : Plain name)
    (hfree : d.node? (dir ++ [name]) = none) : d.Grows (d.putNewFile (dir ++ [name])).1 where
  start := rfl
  nodes := by
    intro loc node hnode
    rw [node?_putNewFile _ _ _ (by simp)]
    split
    · next heq =>
      rw [heq, hfree] at hnode
      exact absurd hnode (by simp)
    · exact hnode
  links := by
    intro loc target hlink
    rw [node?_putNewFile _ _ _ (by simp)] at hlink
    split at hlink
    · exact absurd hlink (by simp)
    · exact hlink
  length := by
    change d.contents.length ≤ (d.contents ++ [[]]).length
    rw [List.length_append]
    exact Nat.le_add_right _ _
  contents := fun _ => content_putNewFile d _ _
  sound := fun sound => sound.putNewFile hdir hname hfree

/-- A path that is written to is not the path of a directory. -/
theorem openForWriting_ok {handle : Handle} (h : openForWriting p d = .ok (handle, d')) :
    d.Grows d' ∧ d.Narrows d' ∧ ∀ used mid, ¬ Walk d' used (d'.origin p) p.steps mid := by
  rw [openForWriting] at h
  cases hpursue : d.pursue true p with
  | error e => rw [hpursue] at h; exact absurd h (by simp)
  | ok found =>
    rw [hpursue] at h
    rw [pursue] at hpursue
    cases hroute : d.route p with
    | error e => rw [hroute] at hpursue; exact absurd hpursue (by simp)
    | ok r =>
      obtain ⟨valid, rfl⟩ := valid_of_route hroute
      rw [hroute] at hpursue
      have hdead : ((∃ loc, found = .free loc) ∨
          ∃ loc node, found = .node loc node ∧ node ≠ .dir) →
          ∀ used mid, ¬ Walk d used (d.origin p) p.steps mid :=
        fun hfound used mid => no_walk_of_pursueFrom hpursue hfound
      cases found with
      | asDir loc node => exact absurd h (by simp)
      | node loc node =>
        cases hwritable : writable node with
        | error e => simp [hwritable, Except.map] at h
        | ok handle' =>
          simp only [hwritable, Except.map, Except.ok.injEq, Prod.mk.injEq] at h
          obtain ⟨-, rfl⟩ := h
          refine ⟨Grows.refl d, Narrows.refl d, hdead (.inr ⟨loc, node, rfl, ?_⟩)⟩
          rintro rfl
          exact absurd hwritable (by simp [writable])
      | free loc =>
        obtain ⟨dir, name, rfl, hdir, hname, hfree⟩ :=
          free_of_pursueFrom (names_of_route d.start p) hpursue
        simp only [Except.ok.injEq, Prod.mk.injEq] at h
        obtain ⟨-, rfl⟩ := h
        have hnarrows := narrows_putNewFile d (dir ++ [name]) (by simp)
        refine ⟨grows_putNewFile hdir hname hfree, hnarrows, fun used mid hwalk => ?_⟩
        exact hdead (.inl ⟨_, rfl⟩) used mid (hwalk.of_narrows hnarrows)

theorem goal_of_openForWriting {handle : Handle} (h : openForWriting p d = .ok (handle, d')) :
    ∃ goal slash, d.goal p = .ok (goal, slash) := by
  rw [openForWriting] at h
  cases hpursue : d.pursue true p with
  | error e => rw [hpursue] at h; exact absurd h (by simp)
  | ok found => exact goal_of_pursue hpursue

theorem goal_of_writeFile {bytes : Bytes} (h : writeFile p bytes d = .ok ((), d')) :
    ∃ goal slash, d.goal p = .ok (goal, slash) := by
  rw [writeFile, create] at h
  cases hopen : openForWriting p d with
  | error e => rw [hopen] at h; exact absurd h (by simp)
  | ok result => exact goal_of_openForWriting hopen

theorem writeFile_ok {bytes : Bytes} (h : writeFile p bytes d = .ok ((), d')) :
    d.Carries d' ∧ (d.Sound → d'.Sound) ∧ ∀ used mid, ¬ Walk d' used (d'.origin p) p.steps mid := by
  have hset : ∀ {d₁ d₂ : Disk}, d₂.nodes = d₁.nodes → d₂.start = d₁.start →
      d₁.Keeps d₂ ∧ ∀ used mid, ¬ Walk d₁ used (d₁.origin p) p.steps mid →
        ¬ Walk d₂ used (d₂.origin p) p.steps mid := by
    intro d₁ d₂ hnodes hstart
    have hnode : ∀ loc, d₂.node? loc = d₁.node? loc := by
      intro loc
      rw [node?, node?, hnodes]
    refine ⟨⟨hstart, fun hloc => (hnode _).trans hloc, fun hloc => (hnode _).trans hloc⟩, ?_⟩
    intro used mid hdead hwalk
    rw [origin, hstart] at hwalk
    exact hdead (hwalk.of_keeps ⟨hstart.symm, fun hloc => (hnode _).symm.trans hloc,
      fun hloc => (hnode _).symm.trans hloc⟩)
  rw [writeFile, create] at h
  cases hopen : openForWriting p d with
  | error e => rw [hopen] at h; exact absurd h (by simp)
  | ok result =>
    obtain ⟨handle, d₁⟩ := result
    obtain ⟨hgrows, -, hdead⟩ := openForWriting_ok hopen
    rw [hopen] at h
    cases handle with
    | file id =>
      simp only [write, Except.ok.injEq, Prod.mk.injEq, true_and] at h
      subst h
      obtain ⟨hkeeps, hstill⟩ := @hset d₁ ((d₁.setContent id []).setContent id
        ((d₁.setContent id []).content id ++ bytes)) rfl rfl
      refine ⟨(hgrows.keeps.carries).trans hkeeps.carries, fun sound => ?_,
        fun used mid => hstill used mid (hdead used mid)⟩
      exact ((hgrows.sound sound).setContent _ _).setContent _ _
    | full =>
      simp only [write] at h
      split at h
      · simp only [Except.ok.injEq, Prod.mk.injEq, true_and] at h
        subst h
        exact ⟨hgrows.keeps.carries, hgrows.sound, hdead⟩
      · exact absurd h (by simp)
    | dir => exact absurd h (by simp [write])

theorem remove_ok (h : remove p d = .ok ((), d')) :
    ∃ dir name node, d.goal p = .ok (.entry dir name, false) ∧
      d.node? (dir ++ [name]) = some node ∧ node ≠ .dir ∧ d' = d.take (dir ++ [name]) := by
  have hgoal : ∃ dir name, d.goal p = .ok (.entry dir name, false) := by
    rw [remove] at h
    split at h
    · exact absurd h (by simp)
    · exact absurd h (by simp)
    · next dir name slash hgoal =>
      cases slash with
      | false => exact ⟨dir, name, hgoal⟩
      | true => split at h <;> exact absurd h (by simp)
  obtain ⟨dir, name, hgoal⟩ := hgoal
  obtain ⟨⟨node, hnode, hne⟩, rfl⟩ := (only_of_goal hgoal).2.remove h
  exact ⟨dir, name, node, hgoal, hnode, hne, rfl⟩

/-- To take away an entry that leads to no directory takes no walk away. -/
theorem take_carries (hdead : ∀ used mid, ¬ Walk d used dir [name] mid)
    (hne : d.node? (dir ++ [name]) ≠ some .dir) : d.Carries (d.take (dir ++ [name])) := by
  have hother : ∀ {loc : Location}, loc ≠ dir ++ [name] →
      (d.take (dir ++ [name])).node? loc = d.node? loc := by
    intro loc hloc
    rw [node?_take _ _ _ (by simp), if_neg hloc]
  have hdir : ∀ {loc : Location}, d.node? loc = some .dir →
      (d.take (dir ++ [name])).node? loc = some .dir := by
    intro loc hloc
    rw [hother, hloc]
    rintro rfl
    exact hne hloc
  refine ⟨rfl, fun {links loc there names} hwalk => ?_⟩
  induction hwalk with
  | stay hloc => exact .stay (hdir hloc)
  | dot hloc _ ih => exact .dot (hdir hloc) ih
  | up hloc _ ih => exact .up (hdir hloc) ih
  | down hloc hdot hup hsize hnode _ ih => exact .down (hdir hloc) hdot hup hsize (hdir hnode) ih
  | @link links loc there name' target rest hloc hdot hup hsize hnode hrest ih =>
    have hplace : loc ++ [name'] ≠ dir ++ [name] := by
      intro heq
      obtain ⟨rfl, hname⟩ := List.append_inj' heq rfl
      rw [List.cons.injEq] at hname
      obtain ⟨l₁, l₂, mid, hnames, -, -⟩ := hrest.split
      refine hdead (l₁ + 1) mid (hname.1 ▸ .link hloc hdot hup hsize hnode ?_)
      rw [List.append_nil]
      exact hnames
    refine .link (hdir hloc) hdot hup hsize ?_ ih
    rw [hother hplace, hnode]

theorem remove_carries (hdead : ∀ used mid, ¬ Walk d used (d.origin p) p.steps mid)
    (h : remove p d = .ok ((), d')) : d.Carries d' ∧ (d.Sound → d'.Sound) := by
  obtain ⟨dir, name, node, hgoal, hnode, hne, rfl⟩ := remove_ok h
  obtain ⟨front, used, hsteps, -, hwalk, -⟩ := steps_of_goal hgoal
  refine ⟨take_carries (fun used' mid hname => ?_) ?_, fun sound => sound.take hnode hne⟩
  · refine hdead (used + used') mid ?_
    rw [hsteps]
    exact hwalk.append hname
  · rw [hnode]
    exact fun heq => hne (Option.some.inj heq)

/-! ### Names joined to a path -/

theorem size_le_append (front rest : Text) : Utf8.size front ≤ Utf8.size (front ++ rest) := by
  rw [Utf8.size, Utf8.size, List.foldl_append]
  generalize front.foldl (fun n c => n + c.utf8Size) 0 = size
  induction rest generalizing size with
  | nil => exact Nat.le_refl _
  | cons c rest ih => exact Nat.le_trans (Nat.le_add_right _ _) (ih (size + c.utf8Size))

theorem valid_of_join (plain : Plain name) (h : (p.join name).Valid) :
    p.chars = [] ∨ p.Valid := by
  by_cases hnil : p.chars = []
  · exact .inl hnil
  obtain ⟨rest, hrest⟩ : ∃ rest, (p.join name).chars = p.chars ++ rest := by
    rw [Path.join_of_no_slash p plain.no_slash]
    split
    · exact ⟨name, rfl⟩
    · exact ⟨'/' :: name, rfl⟩
  have hnul := h.no_nul
  rw [hrest, List.contains_append, Bool.or_eq_false_iff] at hnul
  have hsize := h.size
  rw [hrest] at hsize
  exact .inr ⟨hnil, hnul.1, Nat.le_trans (size_le_append _ _) hsize⟩

/-- A name that is joined to a path is looked up in the directory for which the path stands. -/
theorem goal_join {goal : Goal} {slash : Bool} (plain : Plain name)
    (h : d.goal (p.join name) = .ok (goal, slash)) :
    ∃ dir, goal = .entry dir name ∧ slash = false ∧ d.dirOf? p = some dir := by
  obtain ⟨valid, hslash, -⟩ := goal_ok h
  obtain ⟨used, dir, rfl, hwalk, hused⟩ := walk_of_goal (Path.steps_join p plain) plain.last h
  refine ⟨dir, rfl, ?_, dirOf?_iff.mpr ⟨valid_of_join plain valid, used, hused, ?_⟩⟩
  · rw [hslash]
    simpa using (Path.endsIn_join p plain.no_slash).getLast?_ne plain
  · rwa [origin, Path.isAbsolute_join p plain] at hwalk

theorem only_join (h : d.dirOf? p = some dir) (plain : Plain name) :
    d.Only (p.join name) dir name where
  endsIn := Path.endsIn_join p plain.no_slash
  plain := plain
  goal := by
    intro goal slash hgoal
    obtain ⟨dir', rfl, rfl, hdir⟩ := goal_join plain hgoal
    rw [h, Option.some.injEq] at hdir
    exact ⟨by rw [hdir], rfl⟩

end Outbox.Disk
