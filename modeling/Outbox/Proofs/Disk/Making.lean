import Mathlib.Data.List.Chain
import Outbox.Proofs.Disk.Directories

/-!
# Where directories are made

A path whose directories have been made leads to where it led before, or to a place that was free.
The way to a directory may not go through one that has been made for it and back up by a link, since
a link is followed only where it leads somewhere already. What carries the proof is that making the
missing directories one by one, from the outside in, either has not begun or goes on in a new one.
-/

set_option autoImplicit false

namespace Outbox

namespace Path

/-- A path goes on after another by one name. -/
def Under (q p : Path) : Prop :=
  ∃ name, Last name ∧ q.steps = p.steps ++ [name] ∧ q.isAbsolute = p.isAbsolute

def ofNames (names : List Name) : Path :=
  ⟨'/' :: glue names⟩

theorem pieces_ofNames {names : List Name} (plain : ∀ name ∈ names, Plain name)
    (hne : names ≠ []) : pieces (ofNames names).chars = [] :: names := by
  rw [ofNames, pieces_slash, pieces_glue hne fun name hmem => (plain name hmem).no_slash]

theorem steps_ofNames {names : List Name} (plain : ∀ name ∈ names, Plain name) :
    (ofNames names).steps = names := by
  by_cases hne : names = []
  · subst hne
    rfl
  · rw [steps, pieces_ofNames plain hne]
    have hkeep : names.filter (· ≠ []) = names :=
      List.filter_eq_self.mpr fun name hmem => by simpa using (plain name hmem).ne_nil
    simpa using hkeep

theorem glue_cons {first : Name} {rest : List Name} (h : rest ≠ []) :
    glue (first :: rest) = first ++ '/' :: glue rest := by
  cases rest with
  | nil => exact absurd rfl h
  | cons second rest => rfl

theorem glue_concat {front : List Name} (h : front ≠ []) (name : Name) :
    glue (front ++ [name]) = glue front ++ '/' :: name := by
  induction front with
  | nil => exact absurd rfl h
  | cons first rest ih =>
    rw [List.cons_append, glue_cons (by simp)]
    by_cases hrest : rest = []
    · subst hrest
      rfl
    · rw [ih hrest, glue_cons hrest, List.append_assoc, List.cons_append]

theorem glue_append_text (front : List Name) (name : Name) (t : Text) :
    glue (front ++ [name]) ++ t = glue (front ++ [name ++ t]) := by
  by_cases h : front = []
  · subst h
    rfl
  · rw [glue_concat h, glue_concat h, List.append_assoc, List.cons_append]

theorem join_ofNames {front : List Name} {name : Name}
    (plain : ∀ piece ∈ front ++ [name], Plain piece) :
    (ofNames front).join name = ofNames (front ++ [name]) := by
  rw [join_of_no_slash _ (plain name (by simp)).no_slash]
  rcases List.eq_nil_or_concat' front with rfl | ⟨before, last, rfl⟩
  · rfl
  · have hfront : ∀ piece ∈ before ++ [last], Plain piece :=
      fun piece hmem => plain piece (List.mem_append_left _ hmem)
    have hpieces : pieces (ofNames (before ++ [last])).chars = [] :: before ++ [last] :=
      pieces_ofNames hfront (by simp)
    have hslash := getLast?_ne_slash (hfront last (by simp)).ne_nil hpieces
    have hcut : ¬ ((ofNames (before ++ [last])).chars = [] ∨
        (ofNames (before ++ [last])).chars.getLast? = some '/') := by
      rintro (hnil | hlast)
      · exact absurd hnil (by simp [ofNames])
      · exact hslash hlast
    rw [if_neg hcut, ofNames, ofNames, glue_concat (by simp) name, List.cons_append]

theorem under_ofNames {front : List Name} {name : Name}
    (plain : ∀ piece ∈ front ++ [name], Plain piece) :
    Under (ofNames (front ++ [name])) (ofNames front) := by
  refine ⟨name, (plain name (by simp)).last, ?_, rfl⟩
  rw [steps_ofNames plain, steps_ofNames fun piece hmem => plain piece (by simp [hmem])]

theorem parent?_ofNames {front : List Name} {name : Name}
    (plain : ∀ piece ∈ front ++ [name], Plain piece) :
    (ofNames (front ++ [name])).parent? = some (ofNames front) := by
  have hpieces := pieces_ofNames plain (by simp)
  have habsolute : (ofNames (front ++ [name])).isAbsolute = true := rfl
  rw [parent?, hpieces]
  simp only [dropIdleEnd_concat front (plain name (by simp)), List.reverse_append,
    List.reverse_cons, List.reverse_nil, List.nil_append, List.cons_append, List.reverse_reverse,
    habsolute, Bool.true_and, decide_eq_true_eq]
  cases hfront : front.reverse with
  | nil =>
    have hnil : front = [] := by simpa using hfront
    subst hnil
    rfl
  | cons last before =>
    have heq : front = before.reverse ++ [last] := by
      rw [← List.reverse_reverse front, hfront, List.reverse_cons]
    rw [heq, dropIdleEnd_concat _ (plain last (by simp [heq]))]
    have hne : before.reverse ++ [last] ≠ [] := by simp
    rw [if_neg hne, ofNames]
    cases hcons : before.reverse ++ [last] with
    | nil => exact absurd hcons hne
    | cons first rest => rfl

theorem parent?_root : (ofNames []).parent? = none := by
  decide

/-- From an absolute path outwards, each path is under the next. -/
theorem isChain_ancestors {names : List Name} (plain : ∀ name ∈ names, Plain name) :
    ((ofNames names).ancestors).IsChain Under := by
  suffices hgo : ∀ bound, (ancestors.go bound (ofNames names)).IsChain Under ∧
      ∃ rest, ancestors.go bound (ofNames names) = ofNames names :: rest by
    exact (hgo _).1
  intro bound
  induction bound generalizing names with
  | zero => exact ⟨by simp [ancestors.go], [], rfl⟩
  | succ bound ih =>
    rw [ancestors.go]
    rcases List.eq_nil_or_concat' names with rfl | ⟨front, name, rfl⟩
    · rw [parent?_root]
      exact ⟨by simp, [], rfl⟩
    · rw [parent?_ofNames plain]
      have hfront : ∀ piece ∈ front, Plain piece := fun piece hmem => plain piece (by simp [hmem])
      obtain ⟨hchain, rest, hrest⟩ := ih hfront
      refine ⟨?_, _, rfl⟩
      dsimp only
      rw [hrest] at hchain ⊢
      exact .cons_cons (under_ofNames plain) hchain

end Path

namespace Disk

variable {d d₁ d₂ : Disk} {p q : Path} {loc : Location}

/-- Nothing has been made yet, or the directory of a path, where nothing was before. -/
def Made (d d' : Disk) (p : Path) : Prop :=
  (∃ faults, d' = { d with faults }) ∨ ∃ loc, d.node? loc = none ∧ d'.dirOf? p = some loc

/-- Nothing has been made yet, or the directory in which that of a path comes next. -/
def MadeUpTo (d d' : Disk) (q : Path) : Prop :=
  (∃ faults, d' = { d with faults }) ∨
    ∃ p loc, q.Under p ∧ d.node? loc = none ∧ d'.dirOf? p = some loc

theorem Made.madeUpTo (h : Made d d₁ p) (under : q.Under p) : MadeUpTo d d₁ q :=
  h.imp_right fun ⟨loc, hfree, hdir⟩ => ⟨p, loc, under, hfree, hdir⟩

theorem free_of_grows (grows : d.Grows d₁) (h : d₁.node? loc = none) : d.node? loc = none := by
  cases hnode : d.node? loc with
  | none => rfl
  | some node =>
    rw [grows.nodes hnode] at h
    exact absurd h (by simp)

/-- A directory under one that is new is new too. -/
theorem free_of_under {place : Location} (grows : d.Grows d₁) (sound : d.Sound)
    (under : q.Under p) (hfree : d.node? loc = none) (hp : d₁.dirOf? p = some loc)
    (hq : d₁.dirOf? q = some place) : d.node? place = none := by
  obtain ⟨name, hlast, hsteps, habsolute⟩ := under
  obtain ⟨-, used, -, hwalk⟩ := dirOf?_iff.mp hp
  obtain ⟨-, used', -, hwalk'⟩ := dirOf?_iff.mp hq
  have horigin : d₁.origin q = d₁.origin p := by rw [origin, origin, habsolute]
  rw [hsteps, horigin] at hwalk'
  obtain ⟨l₁, l₂, mid, hfront, hstep, -⟩ := hwalk'.split
  obtain rfl : mid = loc := (hfront.unique hwalk).2
  have hchild : d.node? (mid ++ [name]) = none := by
    cases hnode : d.node? (mid ++ [name]) with
    | none => rfl
    | some node =>
      rw [sound.parent hnode] at hfree
      exact absurd hfree (by simp)
  cases hstep with
  | dot => exact absurd rfl hlast.1
  | up => exact absurd rfl hlast.2
  | down _ _ _ _ _ hrest =>
    cases hrest
    exact hchild
  | link _ _ _ _ hlink _ =>
    rw [grows.links hlink] at hchild
    exact absurd hchild (by simp)

theorem MadeUpTo.mkdir {result : Except IoError Unit} (upTo : MadeUpTo d d₁ q) (grows : d.Grows d₁)
    (sound : d.Sound) (hattempt : d₁.attempt (Disk.mkdir q) = (result, d₂))
    (hdir : result = .ok () ∨ ∃ place, d₂.dirOf? q = some place) : Made d d₂ q := by
  cases result with
  | ok =>
    obtain ⟨faults, hop⟩ := attempt_ok hattempt
    obtain ⟨-, place, hfree, hplace⟩ := mkdir_ok hop
    exact .inr ⟨place, free_of_grows grows hfree, hplace⟩
  | error e =>
    obtain ⟨faults, rfl⟩ := attempt_error hattempt
    rcases upTo with ⟨faults', rfl⟩ | ⟨p, loc, under, hfree, hp⟩
    · exact .inl ⟨faults, rfl⟩
    · obtain ⟨place, hplace⟩ : ∃ place, ({ d₁ with faults } : Disk).dirOf? q = some place :=
        hdir.resolve_left (by simp)
      have hp' := (grows_faults d₁ faults).keeps.carries.dirOf? hp
      exact .inr ⟨place, free_of_under (grows.trans (grows_faults d₁ faults)) sound under hfree hp'
        hplace, hplace⟩

/-- What the search for missing directories comes to. -/
theorem missing_made {paths inner : List Path} (h : d.missing paths = (.ok inner, d₁)) :
    ∃ rest, paths = inner ++ rest ∧
      ((∃ faults, d₁ = { d with faults }) ∨ ∃ p outer, rest = p :: outer ∧ Made d d₁ p) := by
  induction paths generalizing d inner with
  | nil =>
    simp only [missing, Prod.mk.injEq, Except.ok.injEq] at h
    exact ⟨[], by simp [← h.1], .inl ⟨d.faults, h.2.symm⟩⟩
  | cons p outer ih =>
    rw [missing] at h
    split at h
    · simp only [Prod.mk.injEq, Except.ok.injEq] at h
      exact ⟨p :: outer, by simp [← h.1], .inl ⟨d.faults, h.2.symm⟩⟩
    · split at h
      · next d₂ hattempt =>
        simp only [Prod.mk.injEq, Except.ok.injEq] at h
        obtain ⟨rfl, rfl⟩ := h
        obtain ⟨faults, hop⟩ := attempt_ok hattempt
        obtain ⟨-, place, hfree, hplace⟩ := mkdir_ok hop
        exact ⟨p :: outer, rfl, .inr ⟨p, outer, rfl, .inr ⟨place, hfree, hplace⟩⟩⟩
      · next d₂ hattempt =>
        obtain ⟨faults, rfl⟩ := attempt_error hattempt
        split at h
        · next rest d₃ hrest =>
          simp only [Prod.mk.injEq, Except.ok.injEq] at h
          obtain ⟨rfl, rfl⟩ := h
          obtain ⟨others, rfl, hcase⟩ := ih hrest
          refine ⟨others, rfl, ?_⟩
          rcases hcase with ⟨faults', rfl⟩ | ⟨q, outer', rfl, hmade⟩
          · exact .inl ⟨faults', rfl⟩
          · exact .inr ⟨q, outer', rfl, hmade⟩
        · exact absurd h (by simp)
      · next d₂ hattempt =>
        obtain ⟨faults, rfl⟩ := attempt_error hattempt
        split at h
        · simp only [Prod.mk.injEq, Except.ok.injEq] at h
          obtain ⟨rfl, rfl⟩ := h
          exact ⟨p :: outer, rfl, .inl ⟨faults, rfl⟩⟩
        · exact absurd h (by simp)
      · exact absurd h (by simp)

theorem dirOf?_of_isDir (h : d.isDir p = true) : ∃ loc, d.dirOf? p = some loc := by
  by_cases hnil : p.chars = []
  · obtain ⟨chars⟩ := p
    subst hnil
    exact absurd h (by simp [isDir, find, pursue, route])
  · exact (isDir_iff hnil).mp h

theorem mkdirEach_cons {todo : List Path} (h : d.mkdirEach (q :: todo) = (.ok (), d₂)) :
    ∃ result d₁, d.attempt (mkdir q) = (result, d₁) ∧
      (result = .ok () ∨ ∃ place, d₁.dirOf? q = some place) ∧ d₁.mkdirEach todo = (.ok (), d₂) := by
  rw [mkdirEach] at h
  split at h
  · next d₁ hattempt => exact ⟨_, d₁, hattempt, .inl rfl, h⟩
  · next d₁ hattempt =>
    split at h
    · next hdir => exact ⟨_, d₁, hattempt, .inr (dirOf?_of_isDir hdir), h⟩
    · exact absurd h (by simp)
  · exact absurd h (by simp)

/-- Making directories one in the other leads to the last. -/
theorem mkdirEach_made {todo : List Path} (sound : d.Sound) (grows : d.Grows d₁)
    (chain : (q :: todo).IsChain fun p q => q.Under p) (upTo : MadeUpTo d d₁ q)
    (h : d₁.mkdirEach (q :: todo) = (.ok (), d₂)) :
    Made d d₂ ((q :: todo).getLast (by simp)) := by
  induction todo generalizing q d₁ with
  | nil =>
    obtain ⟨result, d₃, hattempt, hdir, hrest⟩ := mkdirEach_cons h
    simp only [mkdirEach, Prod.mk.injEq, true_and] at hrest
    subst hrest
    exact upTo.mkdir grows sound hattempt hdir
  | cons next todo ih =>
    obtain ⟨result, d₃, hattempt, hdir, hrest⟩ := mkdirEach_cons h
    obtain ⟨under, chain⟩ := List.isChain_cons_cons.mp chain
    have made := upTo.mkdir grows sound hattempt hdir
    have grows₃ := grows.trans (d₁.attempt_mkdir q).1
    rw [hattempt] at grows₃
    rw [List.getLast_cons (by simp)]
    exact ih grows₃ chain (made.madeUpTo under) hrest

/-- The directories of a path that have been made end where nothing was before, if they were not
there. -/
theorem mkdirs_made {names : List Name} (plain : ∀ name ∈ names, Plain name) (sound : d.Sound)
    (h : d.mkdirs (.ofNames names) = (.ok (), d₁)) : Made d d₁ (.ofNames names) := by
  obtain ⟨outer, hancestors⟩ := ancestors_eq (.ofNames names)
  have chain := Path.isChain_ancestors plain
  rw [mkdirs] at h
  split at h
  · next inner d₂ hmissing =>
    have grows := (d.missing_grows (Path.ofNames names).ancestors).1
    rw [hmissing] at grows
    obtain ⟨rest, hsplit, hcase⟩ := missing_made hmissing
    rw [hsplit] at chain
    rcases List.eq_nil_or_concat' inner with rfl | ⟨front, q, rfl⟩
    · simp only [List.reverse_nil, mkdirEach, Prod.mk.injEq, true_and] at h
      subst h
      rcases hcase with hquiet | ⟨p, outer', rfl, hmade⟩
      · exact .inl hquiet
      · rw [hancestors, List.nil_append, List.cons.injEq] at hsplit
        exact hsplit.1 ▸ hmade
    · obtain ⟨chain, -, hjoin⟩ := List.isChain_append.mp chain
      have upTo : MadeUpTo d d₂ q := by
        rcases hcase with hquiet | ⟨p, outer', rfl, hmade⟩
        · exact .inl hquiet
        · exact hmade.madeUpTo (hjoin q (by simp) p (by simp))
      rw [← List.reverse_reverse (front ++ [q]), List.isChain_reverse, List.reverse_concat] at chain
      rw [List.reverse_concat] at h
      have made := mkdirEach_made sound grows chain upTo h
      have hlast : (q :: front.reverse).getLast (by simp) = .ofNames names := by
        have hhead : (q :: front.reverse).getLast? = some (.ofNames names) := by
          rw [← List.reverse_concat, List.getLast?_reverse]
          have hfirst := congrArg List.head? (hancestors.symm.trans hsplit)
          rw [List.head?_append] at hfirst
          cases hcons : (front ++ [q]).head? with
          | none => simp at hcons
          | some first =>
            rw [hcons] at hfirst
            simpa using hfirst.symm
        rw [List.getLast?_eq_some_getLast (by simp), Option.some.injEq] at hhead
        exact hhead
      exact hlast ▸ made
  · exact absurd h (by simp)

/-- A path that leads to a directory has led there before, or to a place that was free. -/
def Back (d d' : Disk) (p : Path) : Prop :=
  ∀ loc, d'.dirOf? p = some loc → d.dirOf? p = some loc ∨ d.node? loc = none

theorem Back.trans (h : Back d d₁ p) (h' : Back d₁ d₂ p) (grows : d.Grows d₁) : Back d d₂ p := by
  intro loc hloc
  rcases h' loc hloc with hdir | hfree
  · exact h loc hdir
  · exact .inr (free_of_grows grows hfree)

theorem Narrows.dirOf? (narrows : d.Narrows d₁) (h : d₁.dirOf? p = some loc) :
    d.dirOf? p = some loc :=
  narrows.carries.dirOf? h

theorem Narrows.back (narrows : d.Narrows d₁) : Back d d₁ p :=
  fun _ hloc => .inl (narrows.dirOf? hloc)

theorem Made.back (h : Made d d₁ p) : Back d d₁ p := by
  rcases h with ⟨faults, rfl⟩ | ⟨place, hfree, hplace⟩
  · exact (narrows_faults d faults).back
  · intro loc hloc
    obtain rfl : place = loc := Option.some.inj (hplace.symm.trans hloc)
    exact .inr hfree

end Disk

end Outbox
