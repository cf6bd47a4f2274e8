import Outbox.Proofs.Disk.Sound
import Outbox.Proofs.Disk.Paths

/-!
# Walks

Where names lead from a directory, as a relation without bounds: `Walk` counts the links that are
followed and stops at none. The bounded searches of the disk agree with it. A search for a name
ends in the directory to which the names before it lead, and what is found at the end of a path is
a directory exactly if there is a walk along all of it.

Walks depend on directories and links alone. A disk that has no other directories and links than
another one has no other walks (`Walk.of_narrows`), and one that has at least those has all of them
(`Walk.of_keeps`).
-/

set_option autoImplicit false

namespace Outbox.Disk

/-- A walk from a directory along names to a directory, with the number of links followed. -/
inductive Walk (d : Disk) : Nat → Location → List Name → Location → Prop where
  | stay {loc : Location} : d.node? loc = some .dir → Walk d 0 loc [] loc
  | dot {links : Nat} {loc there : Location} {rest : List Name} : d.node? loc = some .dir →
      Walk d links loc rest there → Walk d links loc (['.'] :: rest) there
  | up {links : Nat} {loc there : Location} {rest : List Name} : d.node? loc = some .dir →
      Walk d links loc.dropLast rest there → Walk d links loc (['.', '.'] :: rest) there
  | down {links : Nat} {loc there : Location} {name : Name} {rest : List Name} :
      d.node? loc = some .dir → name ≠ ['.'] → name ≠ ['.', '.'] → Utf8.size name ≤ maxNameSize →
      d.node? (loc ++ [name]) = some .dir → Walk d links (loc ++ [name]) rest there →
      Walk d links loc (name :: rest) there
  | link {links : Nat} {loc there : Location} {name : Name} {target : Path} {rest : List Name} :
      d.node? loc = some .dir → name ≠ ['.'] → name ≠ ['.', '.'] → Utf8.size name ≤ maxNameSize →
      d.node? (loc ++ [name]) = some (.link target) →
      Walk d links (routeFrom loc target).start ((routeFrom loc target).names ++ rest) there →
      Walk d (links + 1) loc (name :: rest) there

namespace Walk

variable {d : Disk} {links links' : Nat} {loc there there' : Location} {names : List Name}

theorem isDir_start (h : Walk d links loc names there) : d.node? loc = some .dir := by
  cases h <;> assumption

theorem isDir_end (h : Walk d links loc names there) : d.node? there = some .dir := by
  induction h <;> assumption

/-- Names lead to one place only. -/
theorem unique (h : Walk d links loc names there) (h' : Walk d links' loc names there') :
    links = links' ∧ there = there' := by
  induction h generalizing links' there' with
  | stay _ =>
    cases h' with
    | stay _ => exact ⟨rfl, rfl⟩
  | dot _ _ ih =>
    cases h' with
    | dot _ h' => exact ih h'
    | down _ hdot => exact absurd rfl hdot
    | link _ hdot => exact absurd rfl hdot
  | up _ _ ih =>
    cases h' with
    | up _ h' => exact ih h'
    | down _ _ hup => exact absurd rfl hup
    | link _ _ hup => exact absurd rfl hup
  | down _ hdot hup _ hnode _ ih =>
    cases h' with
    | dot => exact absurd rfl hdot
    | up => exact absurd rfl hup
    | down _ _ _ _ _ h' => exact ih h'
    | link _ _ _ _ hnode' =>
      rw [hnode] at hnode'
      exact absurd hnode' (by simp)
  | link _ hdot hup _ hnode _ ih =>
    cases h' with
    | dot => exact absurd rfl hdot
    | up => exact absurd rfl hup
    | down _ _ _ _ hnode' =>
      rw [hnode] at hnode'
      exact absurd hnode' (by simp)
    | link _ _ _ _ hnode' h' =>
      rw [hnode, Option.some.injEq, Node.link.injEq] at hnode'
      subst hnode'
      obtain ⟨hlinks, hto⟩ := ih h'
      exact ⟨by rw [hlinks], hto⟩

theorem append {front rest : List Name} {mid : Location} (h : Walk d links loc front mid)
    (h' : Walk d links' mid rest there) : Walk d (links + links') loc (front ++ rest) there := by
  induction h with
  | stay _ => simpa using h'
  | dot hloc _ ih => exact .dot hloc (ih h')
  | up hloc _ ih => exact .up hloc (ih h')
  | down hloc hdot hup hsize hnode _ ih => exact .down hloc hdot hup hsize hnode (ih h')
  | link hloc hdot hup hsize hnode _ ih =>
    have ih := ih h'
    rw [List.append_assoc] at ih
    rw [Nat.add_right_comm]
    exact .link hloc hdot hup hsize hnode ih

section Concat

variable {front : List Name} {mid : Location} {name : Name}

theorem concat_dir (h : Walk d links loc front mid) (last : Last name)
    (hsize : Utf8.size name ≤ maxNameSize) (hnode : d.node? (mid ++ [name]) = some .dir) :
    Walk d links loc (front ++ [name]) (mid ++ [name]) :=
  h.append (.down h.isDir_end last.1 last.2 hsize hnode (.stay hnode))

theorem concat_link {target : Path} (h : Walk d links loc front mid) (last : Last name)
    (hsize : Utf8.size name ≤ maxNameSize) (hnode : d.node? (mid ++ [name]) = some (.link target))
    (onward : Walk d links' (routeFrom mid target).start (routeFrom mid target).names there) :
    Walk d (links + (links' + 1)) loc (front ++ [name]) there := by
  refine h.append (.link h.isDir_end last.1 last.2 hsize hnode ?_)
  rw [List.append_nil]
  exact onward

end Concat

theorem split {front rest : List Name} (h : Walk d links loc (front ++ rest) there) :
    ∃ l₁ l₂ mid, Walk d l₁ loc front mid ∧ Walk d l₂ mid rest there ∧ links = l₁ + l₂ := by
  generalize hnames : front ++ rest = names at h
  induction h generalizing front with
  | stay hloc =>
    obtain ⟨rfl, rfl⟩ := List.append_eq_nil_iff.mp hnames
    exact ⟨0, 0, _, .stay hloc, .stay hloc, rfl⟩
  | @dot links loc there rest' hloc h ih =>
    cases front with
    | nil =>
      rw [List.nil_append] at hnames
      exact ⟨0, links, loc, .stay hloc, hnames ▸ .dot hloc h, by omega⟩
    | cons first front =>
      rw [List.cons_append, List.cons.injEq] at hnames
      obtain ⟨l₁, l₂, mid, h₁, h₂, rfl⟩ := ih hnames.2
      exact ⟨l₁, l₂, mid, hnames.1 ▸ .dot hloc h₁, h₂, rfl⟩
  | @up links loc there rest' hloc h ih =>
    cases front with
    | nil =>
      rw [List.nil_append] at hnames
      exact ⟨0, links, loc, .stay hloc, hnames ▸ .up hloc h, by omega⟩
    | cons first front =>
      rw [List.cons_append, List.cons.injEq] at hnames
      obtain ⟨l₁, l₂, mid, h₁, h₂, rfl⟩ := ih hnames.2
      exact ⟨l₁, l₂, mid, hnames.1 ▸ .up hloc h₁, h₂, rfl⟩
  | @down links loc there name rest' hloc hdot hup hsize hnode h ih =>
    cases front with
    | nil =>
      rw [List.nil_append] at hnames
      exact ⟨0, links, loc, .stay hloc, hnames ▸ .down hloc hdot hup hsize hnode h, by omega⟩
    | cons first front =>
      rw [List.cons_append, List.cons.injEq] at hnames
      obtain ⟨l₁, l₂, mid, h₁, h₂, rfl⟩ := ih hnames.2
      exact ⟨l₁, l₂, mid, hnames.1 ▸ .down hloc hdot hup hsize hnode h₁, h₂, rfl⟩
  | @link links loc there name target rest' hloc hdot hup hsize hnode h ih =>
    cases front with
    | nil =>
      rw [List.nil_append] at hnames
      exact ⟨0, links + 1, loc, .stay hloc, hnames ▸ .link hloc hdot hup hsize hnode h, by omega⟩
    | cons first front =>
      rw [List.cons_append, List.cons.injEq] at hnames
      have hrest : ((routeFrom loc target).names ++ front) ++ rest
          = (routeFrom loc target).names ++ rest' := by
        rw [List.append_assoc, hnames.2]
      obtain ⟨l₁, l₂, mid, h₁, h₂, hl⟩ := ih hrest
      exact ⟨l₁ + 1, l₂, mid, hnames.1 ▸ .link hloc hdot hup hsize hnode h₁, h₂, by omega⟩

theorem of_dots {dots : List Name} (hdots : ∀ dot ∈ dots, dot = ['.'])
    (h : d.node? loc = some .dir) : Walk d 0 loc dots loc := by
  induction dots with
  | nil => exact .stay h
  | cons first rest ih =>
    obtain rfl := hdots first (by simp)
    exact .dot h (ih fun dot hdot => hdots dot (by simp [hdot]))

/-- Dots at the end of the names change nothing. -/
theorem dots {front dots dots' : List Name} (hdots : ∀ dot ∈ dots, dot = ['.'])
    (hdots' : ∀ dot ∈ dots', dot = ['.']) (h : Walk d links loc (front ++ dots) there) :
    Walk d links loc (front ++ dots') there := by
  obtain ⟨l₁, l₂, mid, h₁, h₂, rfl⟩ := h.split
  obtain ⟨rfl, rfl⟩ := h₂.unique (of_dots hdots h₂.isDir_start)
  exact h₁.append (of_dots hdots' h₂.isDir_start)

end Walk

/-! ### Changes of the ways -/

/-- One disk has no other directories and links than another. -/
structure Narrows (d d' : Disk) : Prop where
  start : d'.start = d.start
  dirs : ∀ {loc : Location}, d'.node? loc = some .dir → d.node? loc = some .dir
  links : ∀ {loc : Location} {target : Path},
    d'.node? loc = some (.link target) → d.node? loc = some (.link target)

/-- One disk has at least the directories and links of another. -/
structure Keeps (d d' : Disk) : Prop where
  start : d'.start = d.start
  dirs : ∀ {loc : Location}, d.node? loc = some .dir → d'.node? loc = some .dir
  links : ∀ {loc : Location} {target : Path},
    d.node? loc = some (.link target) → d'.node? loc = some (.link target)

theorem Narrows.refl (d : Disk) : d.Narrows d :=
  ⟨rfl, id, id⟩

theorem Narrows.trans {d₁ d₂ d₃ : Disk} (h : d₁.Narrows d₂) (h' : d₂.Narrows d₃) :
    d₁.Narrows d₃ :=
  ⟨h'.start.trans h.start, fun hloc => h.dirs (h'.dirs hloc), fun hloc => h.links (h'.links hloc)⟩

theorem narrows_faults (d : Disk) (faults : List (Option OsError)) :
    d.Narrows { d with faults } :=
  ⟨rfl, id, id⟩

theorem narrows_setContent (d : Disk) (id : Nat) (bytes : Bytes) :
    d.Narrows (d.setContent id bytes) :=
  ⟨rfl, fun h => h, fun h => h⟩

theorem narrows_putNewFile (d : Disk) (loc : Location) (h : loc ≠ []) :
    d.Narrows (d.putNewFile loc).1 := by
  refine ⟨rfl, fun {place} hplace => ?_, fun {place target} hplace => ?_⟩ <;>
  · rw [node?_putNewFile d loc place h] at hplace
    split at hplace
    · exact absurd hplace (by simp)
    · exact hplace

theorem narrows_take (d : Disk) {loc : Location} (h : loc ≠ []) : d.Narrows (d.take loc) := by
  refine ⟨rfl, fun {place} hplace => ?_, fun {place target} hplace => ?_⟩ <;>
  · rw [node?_take d loc place h] at hplace
    split at hplace
    · exact absurd hplace (by simp)
    · exact hplace

theorem Bare.narrows_move {d : Disk} {old new : Location} {id : Nat} (bare : d.Bare old)
    (hold : d.node? old = some (.file id)) (ne : old ≠ new) (hnew : new ≠ []) :
    d.Narrows (d.move old new) := by
  have lookup := node?_move bare ne (Sound.ne_nil hold (by simp)) hnew
  refine ⟨rfl, fun {place} hplace => ?_, fun {place target} hplace => ?_⟩ <;>
  · rw [lookup, hold] at hplace
    split at hplace
    · exact absurd hplace (by simp)
    · split at hplace
      · exact absurd hplace (by simp)
      · exact hplace

theorem Sound.narrows_move {d : Disk} (sound : d.Sound) {old new : Location} {id : Nat}
    (hold : d.node? old = some (.file id)) (ne : old ≠ new) (hnew : new ≠ []) :
    d.Narrows (d.move old new) :=
  (sound.bare hold (by simp)).narrows_move hold ne hnew

theorem Keeps.trans {d₁ d₂ d₃ : Disk} (h : d₁.Keeps d₂) (h' : d₂.Keeps d₃) : d₁.Keeps d₃ :=
  ⟨h'.start.trans h.start, fun hloc => h'.dirs (h.dirs hloc), fun hloc => h'.links (h.links hloc)⟩

theorem Walk.of_keeps {d d' : Disk} (keeps : d.Keeps d') {links : Nat} {loc there : Location}
    {names : List Name} (h : Walk d links loc names there) : Walk d' links loc names there := by
  induction h with
  | stay hloc => exact .stay (keeps.dirs hloc)
  | dot hloc _ ih => exact .dot (keeps.dirs hloc) ih
  | up hloc _ ih => exact .up (keeps.dirs hloc) ih
  | down hloc hdot hup hsize hnode _ ih =>
    exact .down (keeps.dirs hloc) hdot hup hsize (keeps.dirs hnode) ih
  | link hloc hdot hup hsize hnode _ ih =>
    exact .link (keeps.dirs hloc) hdot hup hsize (keeps.links hnode) ih

theorem Walk.of_narrows {d d' : Disk} (narrows : d.Narrows d') {links : Nat} {loc there : Location}
    {names : List Name} (h : Walk d' links loc names there) : Walk d links loc names there :=
  h.of_keeps ⟨narrows.start.symm, narrows.dirs, narrows.links⟩

/-- All walks of one disk are walks of another. -/
structure Carries (d d' : Disk) : Prop where
  start : d'.start = d.start
  walk : ∀ {links : Nat} {loc there : Location} {names : List Name},
    Walk d links loc names there → Walk d' links loc names there

theorem Keeps.carries {d d' : Disk} (keeps : d.Keeps d') : d.Carries d' :=
  ⟨keeps.start, fun h => h.of_keeps keeps⟩

theorem Narrows.carries {d d' : Disk} (narrows : d.Narrows d') : d'.Carries d :=
  ⟨narrows.start.symm, fun h => h.of_narrows narrows⟩

theorem Carries.trans {d₁ d₂ d₃ : Disk} (h : d₁.Carries d₂) (h' : d₂.Carries d₃) :
    d₁.Carries d₃ :=
  ⟨h'.start.trans h.start, fun hwalk => h'.walk (h.walk hwalk)⟩

/-! ### Searches -/

section Search

variable {d : Disk}

/-- Names that a search takes to the end: the last one, if there is one, leads on by itself. -/
def LeadsOn (names : List Name) : Prop :=
  ∀ {front : List Name} {name : Name}, names = front ++ [name] → ¬ Last name

/-- What a search down to the first link has walked. -/
inductive Descent (d : Disk) (loc : Location) (names : List Name) : Stop → Prop where
  | here {there : Location} : LeadsOn names →
      (d.node? there = some .dir → Walk d 0 loc names there) →
      Descent d loc names (.goal (.here there))
  | entry {there : Location} {name : Name} (front : List Name) : names = front ++ [name] →
      Last name → Walk d 0 loc front there → Descent d loc names (.goal (.entry there name))
  | link {dir : Location} {target : Path} {rest : List Name} (front : List Name) :
      names = front ++ rest → rest ≠ [] →
      (∀ tail links mid, Walk d links (routeFrom dir target).start
        ((routeFrom dir target).names ++ tail) mid → Walk d (links + 1) loc (front ++ tail) mid) →
      Descent d loc names (.link dir target rest)

/-- One more name in front of a search that goes on. -/
theorem Descent.cons {loc next : Location} {names : List Name} {name : Name} {stop : Stop}
    (walk : ∀ {links tail there}, Walk d links next tail there →
      Walk d links loc (name :: tail) there)
    (single : names = [] → ¬ Last name) (h : Descent d next names stop) :
    Descent d loc (name :: names) stop := by
  cases h with
  | here hopen hwalk =>
    refine .here ?_ fun hto => walk (hwalk hto)
    intro front last hnames
    cases front with
    | nil =>
      rw [List.nil_append, List.cons.injEq] at hnames
      exact hnames.1 ▸ single hnames.2
    | cons first front => exact hopen (List.cons.inj hnames).2
  | entry front hnames hlast hwalk =>
    exact .entry (name :: front) (by rw [hnames, List.cons_append]) hlast (walk hwalk)
  | link front hnames hrest hwalk =>
    refine .link (name :: front) (by rw [hnames, List.cons_append]) hrest
      fun tail links mid hto => ?_
    exact walk (hwalk tail links mid hto)

/-- A search that goes on from a place has found a directory there. -/
theorem isDir_of_descend {loc : Location} {names : List Name} {stop : Stop} (hnames : names ≠ [])
    (h : d.descend loc names = .ok stop) : d.node? loc = some .dir := by
  cases names with
  | nil => exact absurd rfl hnames
  | cons name rest =>
    rw [descend] at h
    split at h
    · exact absurd h (by simp)
    · next hloc => simpa using hloc

theorem descend_ok {loc : Location} {names : List Name} {stop : Stop}
    (h : d.descend loc names = .ok stop) : Descent d loc names stop := by
  induction names generalizing loc with
  | nil =>
    rw [descend, Except.ok.injEq] at h
    refine h ▸ .here ?_ fun hloc => .stay hloc
    intro front name hnames
    exact absurd hnames (by simp)
  | cons name rest ih =>
    have hloc := isDir_of_descend (by simp) h
    rw [descend, if_neg (by simpa using hloc)] at h
    by_cases hdot : name = ['.']
    · rw [if_pos hdot] at h
      exact (ih h).cons (fun hwalk => hdot ▸ .dot hloc hwalk) fun _ hlast => hlast.1 hdot
    rw [if_neg hdot] at h
    by_cases hup : name = ['.', '.']
    · rw [if_pos hup] at h
      exact (ih h).cons (fun hwalk => hup ▸ .up hloc hwalk) fun _ hlast => hlast.2 hup
    rw [if_neg hup] at h
    by_cases hrest : rest = []
    · rw [if_pos hrest, Except.ok.injEq] at h
      exact h ▸ .entry [] (by rw [hrest]; rfl) ⟨hdot, hup⟩ (.stay hloc)
    rw [if_neg hrest] at h
    split at h
    · exact absurd h (by simp)
    · next hsize =>
      have hsize := Nat.le_of_not_lt hsize
      split at h
      · exact absurd h (by simp)
      · next target hnode =>
        rw [Except.ok.injEq] at h
        refine h ▸ .link [name] rfl hrest fun tail links mid hto => ?_
        exact .link hloc hdot hup hsize hnode hto
      · have hnext := isDir_of_descend hrest h
        exact (ih h).cons (fun hwalk => .down hloc hdot hup hsize hnext hwalk)
          fun hnil => absurd hnil hrest

theorem approach_eq (links : Nat) (loc : Location) (names : List Name) :
    d.approach links loc names
      = match d.descend loc names with
        | .error e => .error e
        | .ok (.goal goal) => .ok (goal, links)
        | .ok (.link dir target rest) =>
          match links with
          | 0 => .error (.os .linkLoop)
          | links + 1 =>
            d.approach links (routeFrom dir target).start
              ((routeFrom dir target).names ++ rest) := by
  conv => lhs; unfold approach
  cases d.descend loc names with
  | error e => rfl
  | ok stop => cases stop <;> cases links <;> rfl

/-- What a search that follows links on the way has walked, and how many links it has left. -/
inductive Approach (d : Disk) (links : Nat) (loc : Location) (names : List Name) :
    Goal → Nat → Prop where
  | here {there : Location} {left : Nat} (used : Nat) : LeadsOn names →
      (d.node? there = some .dir → Walk d used loc names there) → used + left = links →
      Approach d links loc names (.here there) left
  | entry {there : Location} {name : Name} {left : Nat} (front : List Name) (used : Nat) :
      names = front ++ [name] → Last name → Walk d used loc front there → used + left = links →
      Approach d links loc names (.entry there name) left

theorem approach_ok {links left : Nat} {loc : Location} {names : List Name} {goal : Goal}
    (h : d.approach links loc names = .ok (goal, left)) :
    Approach d links loc names goal left := by
  induction links generalizing loc names with
  | zero =>
    rw [approach_eq] at h
    cases hdescend : d.descend loc names with
    | error e => rw [hdescend] at h; exact absurd h (by simp)
    | ok stop =>
      rw [hdescend] at h
      cases descend_ok hdescend with
      | here hopen hwalk =>
        simp only [Except.ok.injEq, Prod.mk.injEq] at h
        obtain ⟨rfl, rfl⟩ := h
        exact .here 0 hopen hwalk (Nat.zero_add 0)
      | entry front hnames hlast hwalk =>
        simp only [Except.ok.injEq, Prod.mk.injEq] at h
        obtain ⟨rfl, rfl⟩ := h
        exact .entry front 0 hnames hlast hwalk (Nat.zero_add 0)
      | link => exact absurd h (by simp)
  | succ links ih =>
    rw [approach_eq] at h
    cases hdescend : d.descend loc names with
    | error e => rw [hdescend] at h; exact absurd h (by simp)
    | ok stop =>
      rw [hdescend] at h
      cases descend_ok hdescend with
      | here hopen hwalk =>
        simp only [Except.ok.injEq, Prod.mk.injEq] at h
        obtain ⟨rfl, rfl⟩ := h
        exact .here 0 hopen hwalk (Nat.zero_add _)
      | entry front hnames hlast hwalk =>
        simp only [Except.ok.injEq, Prod.mk.injEq] at h
        obtain ⟨rfl, rfl⟩ := h
        exact .entry front 0 hnames hlast hwalk (Nat.zero_add _)
      | @link dir target rest front hnames hrest hwalk =>
        -- the last name of the search stands in what is left behind the link
        obtain ⟨rest', last, rfl⟩ : ∃ rest' last, rest = rest' ++ [last] :=
          ⟨_, _, (List.dropLast_concat_getLast hrest).symm⟩
        cases ih h with
        | @here there _ used hopen hto hused =>
          refine .here (used + 1) ?_
            (fun hdir => hnames ▸ hwalk (rest' ++ [last]) used there (hto hdir)) (by omega)
          intro front' name hfront
          rw [hnames, ← List.append_assoc] at hfront
          obtain ⟨-, hname⟩ := List.append_inj' hfront rfl
          rw [List.cons.injEq] at hname
          exact hname.1 ▸ hopen (List.append_assoc _ rest' [last]).symm
        | @entry there name _ front' used hfront hlast hto hused =>
          rw [← List.append_assoc] at hfront
          obtain ⟨hfront, hname⟩ := List.append_inj' hfront rfl
          rw [List.cons.injEq] at hname
          rw [← hfront] at hto
          exact .entry (front ++ rest') (used + 1) (by rw [hnames, hname.1, List.append_assoc])
            hlast (hwalk rest' used there hto) (by omega)

theorem Walk.descend_append {links : Nat} {loc there : Location} {names tail : List Name}
    (htail : tail ≠ []) (h : Walk d links loc names there) :
    (links = 0 ∧ d.descend loc (names ++ tail) = d.descend there tail) ∨
      ∃ links' dir target rest, links = links' + 1 ∧
        d.descend loc (names ++ tail) = .ok (.link dir target (rest ++ tail)) ∧
        Walk d links' (routeFrom dir target).start
          ((routeFrom dir target).names ++ rest) there := by
  induction h with
  | stay _ => exact .inl ⟨rfl, rfl⟩
  | dot hloc _ ih =>
    rw [List.cons_append, descend, if_neg (by simpa using hloc), if_pos rfl]
    exact ih
  | up hloc _ ih =>
    rw [List.cons_append, descend, if_neg (by simpa using hloc), if_neg (by simp), if_pos rfl]
    exact ih
  | @down _ _ _ _ rest hloc hdot hup hsize hnode _ ih =>
    rw [List.cons_append, descend, if_neg (by simpa using hloc), if_neg hdot, if_neg hup,
      if_neg (by simp [htail]), if_neg (Nat.not_lt.mpr hsize), hnode]
    exact ih
  | @link links _ _ _ target rest hloc hdot hup hsize hnode h _ =>
    rw [List.cons_append, descend, if_neg (by simpa using hloc), if_neg hdot, if_neg hup,
      if_neg (by simp [htail]), if_neg (Nat.not_lt.mpr hsize), hnode]
    exact .inr ⟨links, _, target, rest, rfl, rfl, h⟩

/-- A search goes along a walk and on from its end, with as many links as are left. -/
theorem Walk.approach_append {links used : Nat} {loc there : Location} {names tail : List Name}
    (htail : tail ≠ []) (h : Walk d used loc names there) (hused : used ≤ links) :
    d.approach links loc (names ++ tail) = d.approach (links - used) there tail := by
  induction links generalizing used loc names with
  | zero =>
    obtain rfl : used = 0 := by omega
    rcases h.descend_append htail with ⟨-, hdescend⟩ | ⟨_, _, _, _, hzero, -⟩
    · rw [approach_eq, approach_eq, hdescend, Nat.sub_self]
    · omega
  | succ links ih =>
    rcases h.descend_append htail with ⟨rfl, hdescend⟩ | ⟨_, dir, target, rest, rfl, hdescend, h⟩
    · rw [Nat.sub_zero, approach_eq, approach_eq, hdescend]
    · rw [approach_eq, hdescend]
      simp only [← List.append_assoc]
      rw [ih h (by omega), Nat.add_sub_add_right]

theorem Walk.approach_name {links used : Nat} {loc there : Location} {front : List Name}
    {name : Name} (hname : Last name) (h : Walk d used loc front there) (hused : used ≤ links) :
    d.approach links loc (front ++ [name]) = .ok (.entry there name, links - used) := by
  rw [h.approach_append (by simp) hused, approach_eq, descend, if_neg (by simpa using h.isDir_end),
    if_neg hname.1, if_neg hname.2, if_pos rfl]

/-- A search for a name ends with that name in the directory to which the names before it lead. -/
theorem approach_name {links left : Nat} {loc : Location} {front : List Name} {name : Name}
    {goal : Goal} (hname : Last name)
    (h : d.approach links loc (front ++ [name]) = .ok (goal, left)) :
    ∃ used mid, goal = .entry mid name ∧ Walk d used loc front mid ∧ used + left = links := by
  cases approach_ok h with
  | entry _ used hnames _ hwalk hused =>
    obtain ⟨rfl, hlast⟩ := List.append_inj' hnames rfl
    rw [List.cons.injEq] at hlast
    exact ⟨_, _, by rw [hlast.1], hwalk, hused⟩
  | here _ hopen => exact absurd hname (hopen rfl)

end Search

end Outbox.Disk
