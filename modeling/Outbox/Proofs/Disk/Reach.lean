import Outbox.Proofs.Disk.Walk

/-!
# Where paths lead

A path that can be walked has the goal to which its names lead. Other hands may bar a way without
laying a new one, so what is carried along is half of this only: `Only` says that the search for a
path ends at one name in one directory, if it ends at all. It holds of every path beside one of
which it holds, and no change that narrows the ways can break it.
-/

set_option autoImplicit false

namespace Outbox

/-- A path that can be walked at all. -/
structure Path.Valid (p : Path) : Prop where
  ne_nil : p.chars ≠ []
  no_nul : p.chars.contains '\x00' = false
  size : Utf8.size p.chars ≤ maxPathSize

namespace Disk

variable {d d' : Disk} {p q : Path} {dir : Location} {name : Name}

def origin (d : Disk) (p : Path) : Location :=
  if p.isAbsolute then [] else d.start

theorem route_of_valid (d : Disk) (valid : p.Valid) : d.route p = .ok (routeFrom d.start p) := by
  rw [route, if_neg (by rw [valid.no_nul]; decide), if_neg valid.ne_nil,
    if_neg (Nat.not_lt.mpr valid.size)]

theorem valid_of_route {r : Route} (h : d.route p = .ok r) :
    p.Valid ∧ r = routeFrom d.start p := by
  rw [route] at h
  split at h
  · exact absurd h (by simp)
  next hnul =>
    split at h
    · exact absurd h (by simp)
    next hnil =>
      split at h
      · exact absurd h (by simp)
      next hsize =>
        rw [Except.ok.injEq] at h
        exact ⟨⟨hnil, by simpa using hnul, Nat.le_of_not_lt hsize⟩, h.symm⟩

/-! ### Goals -/

theorem goal_ok {goal : Goal} {slash : Bool} (h : d.goal p = .ok (goal, slash)) :
    p.Valid ∧ slash = decide (p.chars.getLast? = some '/') ∧
      ∃ left, d.approach maxLinks (d.origin p) p.steps = .ok (goal, left) := by
  rw [Disk.goal] at h
  cases hroute : d.route p with
  | error e => rw [hroute] at h; exact absurd h (by simp)
  | ok r =>
    obtain ⟨valid, rfl⟩ := valid_of_route hroute
    rw [hroute] at h
    cases happroach : d.approach maxLinks (routeFrom d.start p).start
        (routeFrom d.start p).names with
    | error e => simp [happroach] at h
    | ok found =>
      obtain ⟨goal', left⟩ := found
      simp only [happroach, Except.ok.injEq, Prod.mk.injEq] at h
      obtain ⟨rfl, rfl⟩ := h
      exact ⟨valid, rfl, left, happroach⟩

theorem goal_of_approach {goal : Goal} {left : Nat} (valid : p.Valid)
    (h : d.approach maxLinks (d.origin p) p.steps = .ok (goal, left)) :
    d.goal p = .ok (goal, decide (p.chars.getLast? = some '/')) := by
  have happroach : d.approach maxLinks (routeFrom d.start p).start (routeFrom d.start p).names
      = .ok (goal, left) := h
  rw [Disk.goal, route_of_valid d valid]
  simp only [happroach]
  rfl

/-- A path whose names lead to a directory, but for the last one, has that one for its goal. -/
theorem goal_of_walk {front : List Name} {used : Nat} (valid : p.Valid)
    (hsteps : p.steps = front ++ [name]) (hname : Last name)
    (hwalk : Walk d used (d.origin p) front dir) (hused : used ≤ maxLinks) :
    d.goal p = .ok (.entry dir name, decide (p.chars.getLast? = some '/')) := by
  have happroach := hwalk.approach_name hname hused
  rw [← hsteps] at happroach
  exact goal_of_approach valid happroach

theorem walk_of_goal {front : List Name} {goal : Goal} {slash : Bool}
    (hsteps : p.steps = front ++ [name]) (hname : Last name)
    (h : d.goal p = .ok (goal, slash)) :
    ∃ used dir, goal = .entry dir name ∧ Walk d used (d.origin p) front dir ∧
      used ≤ maxLinks := by
  obtain ⟨-, -, left, happroach⟩ := goal_ok h
  rw [hsteps] at happroach
  obtain ⟨used, dir, rfl, hwalk, hused⟩ := approach_name hname happroach
  exact ⟨used, dir, rfl, hwalk, by omega⟩

theorem steps_of_goal {slash : Bool} (h : d.goal p = .ok (.entry dir name, slash)) :
    ∃ front used, p.steps = front ++ [name] ∧ Last name ∧
      Walk d used (d.origin p) front dir ∧ used ≤ maxLinks := by
  obtain ⟨-, -, left, happroach⟩ := goal_ok h
  cases approach_ok happroach with
  | entry front used hsteps hlast hwalk hused =>
    exact ⟨front, used, hsteps, hlast, hwalk, by omega⟩

theorem Carries.goal {slash : Bool} (carries : d.Carries d')
    (h : d.goal p = .ok (.entry dir name, slash)) : d'.goal p = .ok (.entry dir name, slash) := by
  obtain ⟨front, used, hsteps, hlast, hwalk, hused⟩ := steps_of_goal h
  obtain ⟨valid, rfl, -⟩ := goal_ok h
  have horigin : d'.origin p = d.origin p := by rw [origin, origin, carries.start]
  exact goal_of_walk valid hsteps hlast (horigin ▸ carries.walk hwalk) hused

/-! ### Paths that lead to one name -/

/-- A path that leads to one name in one directory, if it leads anywhere. -/
structure Only (d : Disk) (p : Path) (dir : Location) (name : Name) : Prop where
  endsIn : p.EndsIn name
  plain : Plain name
  goal : ∀ {goal : Goal} {slash : Bool}, d.goal p = .ok (goal, slash) →
    goal = .entry dir name ∧ slash = false

/-- A path leads to one name, if whatever directory its other names lead to is one. -/
theorem Only.of_walk {front : List Name} (endsIn : p.EndsIn name) (plain : Plain name)
    (hsteps : p.steps = front ++ [name])
    (h : p.Valid → ∀ {used : Nat} {there : Location}, used ≤ maxLinks →
      Walk d used (d.origin p) front there → there = dir) : d.Only p dir name where
  endsIn := endsIn
  plain := plain
  goal := by
    intro goal slash hgoal
    obtain ⟨valid, hslash, -⟩ := goal_ok hgoal
    obtain ⟨used, there, rfl, hwalk, hused⟩ := walk_of_goal hsteps plain.last hgoal
    refine ⟨by rw [h valid hused hwalk], ?_⟩
    rw [hslash]
    simpa using endsIn.getLast?_ne plain

theorem Only.walk {front : List Name} {used : Nat} {there : Location} (only : d.Only p dir name)
    (valid : p.Valid) (hsteps : p.steps = front ++ [name]) (hused : used ≤ maxLinks)
    (hwalk : Walk d used (d.origin p) front there) : there = dir := by
  have hgoal := goal_of_walk valid hsteps only.plain.last hwalk hused
  have heq := (only.goal hgoal).1
  rw [Goal.entry.injEq] at heq
  exact heq.1

theorem Only.beside {other : Name} (only : d.Only p dir name) (valid : p.Valid)
    (beside : p.Beside name q other) (plain : Plain other) : d.Only q dir other := by
  obtain ⟨front, dots, dots', hp, hq, hdots, hdots'⟩ := beside.steps
  refine .of_walk beside.endsIn plain hq fun _ used there hused hwalk => ?_
  have horigin : d.origin q = d.origin p := by
    rw [origin, origin, beside.absolute]
  rw [horigin] at hwalk
  exact only.walk valid hp hused (hwalk.dots hdots' hdots)

theorem Only.of_carries (only : d.Only p dir name) (carries : d'.Carries d) :
    d'.Only p dir name := by
  obtain ⟨before, hbefore⟩ := only.endsIn
  have hsteps := Path.steps_of_pieces only.plain.ne_nil hbefore
  refine .of_walk only.endsIn only.plain hsteps fun valid used there hused hwalk => ?_
  have horigin : d'.origin p = d.origin p := by rw [origin, origin, carries.start]
  rw [horigin] at hwalk
  exact only.walk valid hsteps hused (carries.walk hwalk)

theorem Only.of_narrows (only : d.Only p dir name) (narrows : d.Narrows d') :
    d'.Only p dir name :=
  only.of_carries narrows.carries

/-- A path whose goal is an entry leads to that entry only. -/
theorem only_of_goal (h : d.goal p = .ok (.entry dir name, false)) :
    p.Valid ∧ d.Only p dir name := by
  obtain ⟨valid, hslash, -⟩ := goal_ok h
  obtain ⟨front, used, hsteps, hlast, -⟩ := steps_of_goal h
  have hname : name ∈ p.steps := by simp [hsteps]
  obtain ⟨hpiece, hne⟩ := List.mem_filter.mp hname
  have plain : Plain name :=
    ⟨by simpa using hne, Path.no_slash_of_mem_pieces hpiece, hlast.1, hlast.2⟩
  refine ⟨valid, Path.endsIn_of_steps hsteps (by simpa using hslash), plain, ?_⟩
  intro goal slash hgoal
  rw [h, Except.ok.injEq, Prod.mk.injEq] at hgoal
  exact ⟨hgoal.1.symm, hgoal.2.symm⟩

/-! ### What is found at the end -/

theorem nodeIn?_ok {found : Option Node} (h : d.nodeIn? dir name = .ok found) :
    found = d.node? (dir ++ [name]) ∧ Utf8.size name ≤ maxNameSize := by
  rw [nodeIn?] at h
  split at h
  · exact absurd h (by simp)
  · next hsize =>
    rw [Except.ok.injEq] at h
    exact ⟨h.symm, Nat.le_of_not_lt hsize⟩

theorem nodeIn?_of_size (h : Utf8.size name ≤ maxNameSize) :
    d.nodeIn? dir name = .ok (d.node? (dir ++ [name])) := by
  rw [nodeIn?, if_neg (Nat.not_lt.mpr h)]

theorem pursueFrom_entry {creating : Bool} (turns : Nat) {links left : Nat} {r : Route}
    (hslash : (creating && r.slash) = false) :
    d.approach links r.start r.names = .ok (.entry dir name, left) →
      d.pursueFrom creating (turns + 1) links r
        = match d.nodeIn? dir name with
          | .error e => .error e
          | .ok (some (.link target)) =>
            match left with
            | 0 => .error (.os .linkLoop)
            | links + 1 =>
              d.pursueFrom creating turns links
                { routeFrom dir target with slash := (routeFrom dir target).slash || r.slash }
          | .ok (some node) =>
            if r.slash then .ok (.asDir (dir ++ [name]) (some node))
            else .ok (.node (dir ++ [name]) node)
          | .ok none =>
            if r.slash then .ok (.asDir (dir ++ [name]) none) else .ok (.free (dir ++ [name])) := by
  intro happroach
  rw [pursueFrom, happroach]
  dsimp only
  rcases d.nodeIn? dir name with e | (_ | (_ | _ | _ | _)) <;> cases left <;> simp [hslash]

theorem pursue_of_goal (creating : Bool) (h : d.goal p = .ok (.entry dir name, false)) :
    ∃ left, d.pursue creating p
      = match d.nodeIn? dir name with
        | .error e => .error e
        | .ok (some (.link target)) =>
          match left with
          | 0 => .error (.os .linkLoop)
          | links + 1 =>
            d.pursueFrom creating maxLinks links
              { routeFrom dir target with slash := (routeFrom dir target).slash || false }
        | .ok (some node) => .ok (.node (dir ++ [name]) node)
        | .ok none => .ok (.free (dir ++ [name])) := by
  obtain ⟨valid, hslash, left, happroach⟩ := goal_ok h
  have hslash : (routeFrom d.start p).slash = false := hslash.symm
  refine ⟨left, ?_⟩
  have hcreating : (creating && (routeFrom d.start p).slash) = false := by
    rw [hslash, Bool.and_false]
  rw [pursue, route_of_valid d valid]
  dsimp only
  rw [pursueFrom_entry maxLinks hcreating happroach]
  simp only [hslash, Bool.false_eq_true, if_false]

theorem goal_of_pursue {creating : Bool} {found : Found} (h : d.pursue creating p = .ok found) :
    ∃ goal slash, d.goal p = .ok (goal, slash) := by
  rw [pursue] at h
  cases hroute : d.route p with
  | error e => rw [hroute] at h; exact absurd h (by simp)
  | ok r =>
    obtain ⟨valid, rfl⟩ := valid_of_route hroute
    rw [hroute] at h
    change d.pursueFrom creating (maxLinks + 1) maxLinks (routeFrom d.start p) = _ at h
    rw [pursueFrom] at h
    cases happroach : d.approach maxLinks (routeFrom d.start p).start
        (routeFrom d.start p).names with
    | error e => rw [happroach] at h; exact absurd h (by simp)
    | ok found =>
      obtain ⟨goal, left⟩ := found
      exact ⟨goal, _, goal_of_approach valid happroach⟩

theorem isDir_of_goal {slash : Bool} (h : d.goal p = .ok (.entry dir name, slash)) :
    d.node? dir = some .dir := by
  obtain ⟨_, _, _, _, hwalk, _⟩ := steps_of_goal h
  exact hwalk.isDir_end

theorem Only.pursue {creating : Bool} {found : Found} (only : d.Only p dir name)
    (hlink : ∀ target, d.node? (dir ++ [name]) ≠ some (.link target))
    (h : d.pursue creating p = .ok found) :
    d.goal p = .ok (.entry dir name, false) ∧ d.nodeIn? dir name = .ok (d.node? (dir ++ [name])) ∧
      found = match d.node? (dir ++ [name]) with
        | some node => .node (dir ++ [name]) node
        | none => .free (dir ++ [name]) := by
  obtain ⟨goal, slash, hgoal⟩ := goal_of_pursue h
  obtain ⟨rfl, rfl⟩ := only.goal hgoal
  obtain ⟨left, hpursue⟩ := pursue_of_goal creating hgoal
  rw [hpursue] at h
  cases hentry : d.nodeIn? dir name with
  | error e => rw [hentry] at h; exact absurd h (by simp)
  | ok node =>
    obtain ⟨rfl, -⟩ := nodeIn?_ok hentry
    rw [hentry] at h
    refine ⟨hgoal, rfl, ?_⟩
    generalize d.node? (dir ++ [name]) = node at h hlink
    match node, hlink with
    | none, _ => simpa using h.symm
    | some .dir, _ => simpa using h.symm
    | some (.file _), _ => simpa using h.symm
    | some .full, _ => simpa using h.symm
    | some (.link target), hlink => exact absurd rfl (hlink target)

theorem goal_of_exists (h : d.exists? p = true) : ∃ goal slash, d.goal p = .ok (goal, slash) := by
  rw [exists?, Disk.find] at h
  cases hpursue : d.pursue false p with
  | error e => simp [hpursue] at h
  | ok found => exact goal_of_pursue hpursue

theorem Only.exists_node (only : d.Only p dir name) (h : d.exists? p = true) :
    d.node? (dir ++ [name]) ≠ none := by
  intro hnone
  rw [exists?] at h
  cases hfind : d.find p with
  | error e => rw [hfind] at h; exact absurd h (by simp)
  | ok found =>
    rw [Disk.find] at hfind
    cases hpursue : d.pursue false p with
    | error e => rw [hpursue] at hfind; exact absurd hfind (by simp)
    | ok end' =>
      obtain ⟨-, -, rfl⟩ := only.pursue (by simp [hnone]) hpursue
      rw [hpursue, hnone] at hfind
      exact absurd hfind (by simp)

/-- What the goal of a path is, is found, unless it is a link. -/
theorem find_of_goal {node : Node} (h : d.goal p = .ok (.entry dir name, false))
    (hentry : d.nodeIn? dir name = .ok (some node)) (hlink : ∀ target, node ≠ .link target) :
    d.find p = .ok (dir ++ [name], node) := by
  obtain ⟨left, hpursue⟩ := pursue_of_goal false h
  rw [Disk.find, hpursue, hentry]
  match node, hlink with
  | .dir, _ => rfl
  | .file _, _ => rfl
  | .full, _ => rfl
  | .link target, hlink => exact absurd rfl (hlink target)

/-- Where a path that leads to nothing has its goal, there is nothing or a link. -/
theorem free_of_goal (h : d.goal p = .ok (.entry dir name, false))
    (hentry : d.nodeIn? dir name = .ok (d.node? (dir ++ [name]))) (hfree : d.exists? p = false) :
    d.node? (dir ++ [name]) = none ∨ ∃ link, d.node? (dir ++ [name]) = some (.link link) := by
  cases htaken : d.node? (dir ++ [name]) with
  | none => exact .inl rfl
  | some node =>
    refine .inr ?_
    by_contra hlink
    rw [htaken] at hentry
    have hfind := find_of_goal h hentry fun link heq => hlink ⟨link, by rw [heq]⟩
    rw [exists?, hfind] at hfree
    exact absurd hfree (by simp)

/-! ### Directories -/

/-- What a walk to the end has found, if it is a directory. -/
def Found.isDirAt (found : Found) (loc : Location) : Prop :=
  found = .node loc .dir ∨ found = .asDir loc (some .dir)

theorem Found.dir_of_end {slash : Bool} {place loc : Location} {node : Node} {found : Found}
    (h : (if slash then Except.ok (asDir place (some node)) else .ok (.node place node))
      = (.ok found : Except IoError Found)) (hfound : found.isDirAt loc) :
    node = .dir ∧ loc = place := by
  split at h <;> rw [← Except.ok.inj h] at hfound <;>
    simpa [isDirAt, and_comm, eq_comm] using hfound

theorem Found.not_dirAt_of_free {slash : Bool} {place loc : Location} {found : Found}
    (h : (if slash then Except.ok (asDir place none) else .ok (free place))
      = (.ok found : Except IoError Found)) : ¬ found.isDirAt loc := by
  split at h <;> rw [← Except.ok.inj h] <;> simp [isDirAt]

/-- A directory at the end of a route lies where the names of the route lead. -/
theorem walk_of_pursueFrom {turns links : Nat} {r : Route} {found : Found} {loc : Location}
    (h : d.pursueFrom false turns links r = .ok found) (hfound : Found.isDirAt found loc) :
    ∃ used, used ≤ links ∧ Walk d used r.start r.names loc := by
  induction turns generalizing links r with
  | zero => exact absurd h (by simp [pursueFrom])
  | succ turns ih =>
    cases happroach : d.approach links r.start r.names with
    | error e =>
      rw [pursueFrom, happroach] at h
      exact absurd h (by simp)
    | ok result =>
      obtain ⟨goal, left⟩ := result
      cases approach_ok happroach with
      | @here there _ used _ hwalk hused =>
        rw [pursueFrom, happroach, Except.ok.injEq] at h
        rw [← h] at hfound
        rcases hfound with hfound | hfound
        · exact absurd hfound (by simp)
        · rw [Found.asDir.injEq] at hfound
          obtain ⟨rfl, hdir⟩ := hfound
          exact ⟨used, by omega, hwalk hdir⟩
      | @entry dir name _ front used hnames hlast hwalk hused =>
        rw [pursueFrom_entry turns rfl happroach] at h
        rw [hnames]
        cases hentry : d.nodeIn? dir name with
        | error e => rw [hentry] at h; exact absurd h (by simp)
        | ok node =>
          obtain ⟨rfl, hsize⟩ := nodeIn?_ok hentry
          rw [hentry] at h
          cases hnode : d.node? (dir ++ [name]) with
          | none =>
            rw [hnode] at h
            exact absurd hfound (Found.not_dirAt_of_free h)
          | some node =>
            rw [hnode] at h
            cases node with
            | link target =>
              cases left with
              | zero => exact absurd h (by simp)
              | succ left =>
                obtain ⟨used', hused', hwalk'⟩ := ih h
                exact ⟨used + (used' + 1), by omega,
                  hwalk.concat_link hlast hsize hnode hwalk'⟩
            | dir =>
              obtain ⟨-, rfl⟩ := Found.dir_of_end h hfound
              exact ⟨used, by omega, hwalk.concat_dir hlast hsize hnode⟩
            | file id => exact absurd (Found.dir_of_end h hfound).1 (by simp)
            | full => exact absurd (Found.dir_of_end h hfound).1 (by simp)

/-- A route whose names lead to a directory ends there, if there are links enough for it. -/
theorem pursueFrom_of_walk {turns links used : Nat} {r : Route} {loc : Location}
    (h : Walk d used r.start r.names loc) (hlinks : used ≤ links) (hturns : used < turns) :
    ∃ found, d.pursueFrom false turns links r = .ok found ∧ Found.isDirAt found loc := by
  induction turns generalizing links used r with
  | zero => omega
  | succ turns ih =>
    rcases List.eq_nil_or_concat r.names with hnil | ⟨front, name, hnames⟩
    · rw [hnil] at h
      have hdir := h.isDir_end
      cases h with
      | stay hloc =>
        refine ⟨.asDir r.start (some .dir), ?_, .inr rfl⟩
        rw [pursueFrom, hnil, approach_eq, descend]
        simp only [hdir]
    · rw [List.concat_eq_append] at hnames
      rw [hnames] at h
      obtain ⟨l₁, l₂, mid, hfront, hlast, rfl⟩ := h.split
      have happroach : d.approach links r.start r.names
          = d.approach (links - l₁) mid [name] := by
        rw [hnames]
        exact hfront.approach_append (by simp) (by omega)
      have here : ∀ {there : Location}, d.node? mid = some .dir → d.node? there = some .dir →
          d.descend mid [name] = .ok (.goal (.here there)) →
          ∃ found, d.pursueFrom false (turns + 1) links r = .ok found ∧
            Found.isDirAt found there := by
        intro there _ hto hdescend
        refine ⟨.asDir there (some .dir), ?_, .inr rfl⟩
        rw [pursueFrom, happroach, approach_eq, hdescend]
        simp only [hto]
      have hentry : Last name →
          d.approach links r.start r.names = .ok (.entry mid name, links - l₁) := by
        intro hname
        rw [happroach, approach_eq, descend, if_neg (by simpa using hlast.isDir_start),
          if_neg hname.1, if_neg hname.2, if_pos rfl]
      cases hlast with
      | dot hmid hrest =>
        cases hrest with
        | stay hto =>
          refine here hmid hto ?_
          rw [descend, if_neg (by simpa using hmid), if_pos rfl, descend]
      | up hmid hrest =>
        cases hrest with
        | stay hto =>
          refine here hmid hto ?_
          rw [descend, if_neg (by simpa using hmid), if_neg (by simp), if_pos rfl, descend]
      | down hmid hdot hup hsize hnode hrest =>
        cases hrest with
        | stay hto =>
          rw [pursueFrom_entry turns rfl (hentry ⟨hdot, hup⟩), nodeIn?_of_size hsize, hnode]
          by_cases hslash : r.slash
          · exact ⟨_, if_pos hslash, .inr rfl⟩
          · exact ⟨_, if_neg hslash, .inl rfl⟩
      | @link l₂ _ _ _ target _ hmid hdot hup hsize hnode hrest =>
        rw [List.append_nil] at hrest
        obtain ⟨left, hleft⟩ : ∃ left, links - l₁ = left + 1 := ⟨links - l₁ - 1, by omega⟩
        rw [pursueFrom_entry turns rfl (hentry ⟨hdot, hup⟩), nodeIn?_of_size hsize, hnode, hleft]
        have hroute : Walk d l₂
            ({ routeFrom mid target with
                slash := (routeFrom mid target).slash || r.slash } : Route).start
            ({ routeFrom mid target with
                slash := (routeFrom mid target).slash || r.slash } : Route).names loc := hrest
        exact ih hroute (by omega) (by omega)

/-- A path leads to a directory if all of its names do, with no more links than may be followed. -/
theorem find_dir_iff {loc : Location} :
    d.find p = .ok (loc, .dir) ↔
      p.Valid ∧ ∃ used, used ≤ maxLinks ∧ Walk d used (d.origin p) p.steps loc := by
  constructor
  · intro h
    rw [Disk.find, pursue] at h
    cases hroute : d.route p with
    | error e => rw [hroute] at h; exact absurd h (by simp)
    | ok r =>
      obtain ⟨valid, rfl⟩ := valid_of_route hroute
      refine ⟨valid, ?_⟩
      rw [hroute] at h
      dsimp only at h
      cases hpursue : d.pursueFrom false (maxLinks + 1) maxLinks (routeFrom d.start p) with
      | error e => rw [hpursue] at h; exact absurd h (by simp)
      | ok found =>
        rw [hpursue] at h
        apply walk_of_pursueFrom hpursue
        rcases found with ⟨loc', node⟩ | loc' | ⟨loc', _ | (_ | _ | _ | _)⟩
        · simp only [Except.ok.injEq, Prod.mk.injEq] at h
          exact .inl (by rw [h.1, h.2])
        · exact absurd h (by simp)
        · exact absurd h (by simp)
        · simp only [Except.ok.injEq, Prod.mk.injEq, and_true] at h
          exact .inr (by rw [h])
        · exact absurd h (by simp)
        · exact absurd h (by simp)
        · exact absurd h (by simp)
  · rintro ⟨valid, used, hused, hwalk⟩
    have hroute : Walk d used (routeFrom d.start p).start (routeFrom d.start p).names loc := hwalk
    obtain ⟨found, hpursue, hfound⟩ := pursueFrom_of_walk hroute hused (Nat.lt_succ_of_le hused)
    rw [Disk.find, pursue, route_of_valid d valid]
    dsimp only
    rw [hpursue]
    rcases hfound with rfl | rfl <;> rfl

end Disk

end Outbox
