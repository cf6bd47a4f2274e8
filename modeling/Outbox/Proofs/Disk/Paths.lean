import Outbox.Proofs.Disk.Entries

/-!
# What paths say

The pieces of a path, the steps that a walk takes of them, and paths that differ in the last name
only: a name joined to a directory and another one joined to it, or a path and the same path with
another file name. Two such paths lead into one directory, whatever the disk.
-/

set_option autoImplicit false

namespace Outbox.Path

/-! ### Pieces -/

theorem pieces_ne_nil (t : Text) : pieces t ≠ [] := by
  cases t with
  | nil => simp [pieces]
  | cons c rest =>
    rw [pieces]
    split
    · simp
    · split <;> simp

theorem pieces_slash (t : Text) : pieces ('/' :: t) = [] :: pieces t := by
  rw [pieces]
  split
  · next h => exact absurd h (pieces_ne_nil t)
  · next first others h => rw [if_pos rfl, h]

theorem pieces_cons {c : Char} (hc : c ≠ '/') (t : Text) :
    ∃ first others, pieces t = first :: others ∧ pieces (c :: t) = (c :: first) :: others := by
  cases h : pieces t with
  | nil => exact absurd h (pieces_ne_nil t)
  | cons first others => exact ⟨first, others, rfl, by rw [pieces, h]; simp [hc]⟩

theorem pieces_append_slash (a b : Text) : pieces (a ++ '/' :: b) = pieces a ++ pieces b := by
  induction a with
  | nil => rw [List.nil_append, pieces_slash]; rfl
  | cons c rest ih =>
    by_cases hc : c = '/'
    · subst hc
      rw [List.cons_append, pieces_slash, pieces_slash, ih, List.cons_append]
    · obtain ⟨first, others, h, h'⟩ := pieces_cons hc rest
      rw [List.cons_append, h', List.cons_append]
      rw [h, List.cons_append] at ih
      obtain ⟨first', others', h₁, h₁'⟩ := pieces_cons hc (rest ++ '/' :: b)
      rw [ih, List.cons.injEq] at h₁
      rw [h₁', h₁.1, h₁.2]

theorem pieces_of_no_slash {t : Text} (h : '/' ∉ t) : pieces t = [t] := by
  induction t with
  | nil => rfl
  | cons c rest ih =>
    rw [List.mem_cons, not_or] at h
    obtain ⟨hc, hrest⟩ := h
    obtain ⟨first, others, h₁, h₂⟩ := pieces_cons (Ne.symm hc) rest
    rw [ih hrest, List.cons.injEq] at h₁
    rw [h₂, ← h₁.1, ← h₁.2]

theorem no_slash_of_mem_pieces {t : Text} {piece : Name} (h : piece ∈ pieces t) : '/' ∉ piece := by
  induction t generalizing piece with
  | nil =>
    simp only [pieces, List.mem_singleton] at h
    simp [h]
  | cons c rest ih =>
    by_cases hc : c = '/'
    · subst hc
      rw [pieces_slash, List.mem_cons] at h
      rcases h with rfl | h
      · simp
      · exact ih h
    · obtain ⟨first, others, h₁, h₂⟩ := pieces_cons hc rest
      rw [h₂, List.mem_cons] at h
      rcases h with rfl | h
      · rw [List.mem_cons, not_or]
        exact ⟨Ne.symm hc, ih (by simp [h₁])⟩
      · exact ih (by simp [h₁, h])

theorem pieces_glue {ps : List Name} (hps : ps ≠ []) (h : ∀ piece ∈ ps, '/' ∉ piece) :
    pieces (glue ps) = ps := by
  induction ps with
  | nil => exact absurd rfl hps
  | cons first rest ih =>
    cases rest with
    | nil => exact pieces_of_no_slash (h first (by simp))
    | cons second rest =>
      rw [glue, pieces_append_slash, pieces_of_no_slash (h first (by simp)),
        ih (by simp) fun piece hpiece => h piece (by simp [hpiece])]
      · rfl
      · simp

/-! ### The last name -/

/-- A path that ends in a name. -/
def EndsIn (p : Path) (name : Name) : Prop :=
  ∃ before, pieces p.chars = before ++ [name]

/-- The names that a walk takes of a path. -/
def steps (p : Path) : List Name :=
  (pieces p.chars).filter (· ≠ [])

theorem steps_of_pieces {p : Path} {before : List Name} {name : Name} (hname : name ≠ [])
    (h : pieces p.chars = before ++ [name]) : p.steps = before.filter (· ≠ []) ++ [name] := by
  rw [steps, h, List.filter_append]
  simp [hname]

theorem getLast?_ne_slash {t : Text} {before : List Name} {name : Name} (hname : name ≠ [])
    (h : pieces t = before ++ [name]) : t.getLast? ≠ some '/' := by
  intro hlast
  obtain ⟨front, rfl⟩ := List.getLast?_eq_some_iff.mp hlast
  rw [pieces_append_slash] at h
  have hend := congrArg List.getLast? h
  rw [List.getLast?_append, List.getLast?_append] at hend
  simp only [pieces, List.getLast?_singleton, Option.some_or, Option.some.injEq] at hend
  exact hname hend.symm

theorem getLast?_pieces_concat {c : Char} (hc : c ≠ '/') (t : Text) :
    (pieces (t ++ [c])).getLast? ≠ some [] := by
  induction t with
  | nil => simp [pieces, hc]
  | cons x rest ih =>
    by_cases hx : x = '/'
    · subst hx
      rw [List.cons_append, pieces_slash, List.getLast?_cons_of_ne_nil (pieces_ne_nil _)]
      exact ih
    · obtain ⟨first, others, h₁, h₂⟩ := pieces_cons hx (rest ++ [c])
      rw [List.cons_append, h₂]
      rw [h₁] at ih
      cases others with
      | nil => simp
      | cons second others =>
        rw [List.getLast?_cons_cons] at ih ⊢
        exact ih

/-- A path that does not end in a slash ends in its last step. -/
theorem endsIn_of_steps {p : Path} {front : List Name} {name : Name}
    (hsteps : p.steps = front ++ [name]) (hslash : p.chars.getLast? ≠ some '/') :
    p.EndsIn name := by
  obtain ⟨before, last, hlast⟩ : ∃ before last, pieces p.chars = before ++ [last] :=
    ⟨_, _, (List.dropLast_concat_getLast (pieces_ne_nil p.chars)).symm⟩
  have hlast_ne : last ≠ [] := by
    rintro rfl
    rcases List.eq_nil_or_concat p.chars with hp | ⟨text, c, hp⟩
    · rw [steps, hp] at hsteps
      simp [pieces] at hsteps
    · rw [List.concat_eq_append] at hp
      rw [hp] at hslash hlast
      have hc : c ≠ '/' := by simpa using hslash
      exact getLast?_pieces_concat hc text (by rw [hlast]; simp)
  rw [steps_of_pieces hlast_ne hlast] at hsteps
  obtain ⟨-, hname⟩ := List.append_inj' hsteps rfl
  rw [List.cons.injEq] at hname
  exact ⟨before, hname.1 ▸ hlast⟩

theorem EndsIn.getLast?_ne {p : Path} {name : Name} (h : p.EndsIn name) (plain : Plain name) :
    p.chars.getLast? ≠ some '/' := by
  obtain ⟨before, h⟩ := h
  exact getLast?_ne_slash plain.ne_nil h

theorem EndsIn.fileName? {p : Path} {name : Name} (h : p.EndsIn name) (plain : Plain name) :
    p.fileName? = some name := by
  obtain ⟨before, h⟩ := h
  have hpiece : Component.ofPiece name = .entry name := by
    rw [Component.ofPiece, if_neg plain.ne_up]
  have hidle : isIdle name = false := by
    simp [isIdle, plain.ne_nil, plain.ne_dot]
  have hlast : p.components.getLast? = some (.entry name) := by
    cases before with
    | nil =>
      have hchars : p.isAbsolute = false := by
        cases hp : p.chars with
        | nil => simp [isAbsolute, hp]
        | cons c rest =>
          by_cases hc : c = '/'
          · subst hc
            rw [hp, pieces_slash, List.nil_append, List.cons.injEq] at h
            exact absurd h.1.symm plain.ne_nil
          · simpa [isAbsolute, hp] using hc
      rw [components, h]
      simp [hchars, plain.ne_nil, plain.ne_dot, hpiece]
    | cons first rest =>
      rw [components, h, List.cons_append]
      simp [List.filter_append, hidle, hpiece]
  rw [Path.fileName?, hlast]

/-! ### Names in one directory -/

theorem head?_ne_slash {name : Name} (h : '/' ∉ name) : name.head? ≠ some '/' := by
  intro hhead
  cases name with
  | nil => simp at hhead
  | cons c rest =>
    rw [List.head?_cons, Option.some.injEq] at hhead
    exact h (by simp [hhead])

theorem join_of_no_slash (d : Path) {name : Name} (h : '/' ∉ name) :
    d.join name
      = if d.chars = [] ∨ d.chars.getLast? = some '/' then ⟨d.chars ++ name⟩
        else ⟨d.chars ++ '/' :: name⟩ := by
  rw [join, if_neg (head?_ne_slash h)]
  by_cases hd : d.chars = [] ∨ d.chars.getLast? = some '/'
  · rw [if_pos hd, if_pos (by simpa using hd)]
  · rw [if_neg hd, if_neg (by simpa using hd)]

theorem pieces_join (d : Path) {name : Name} (h : '/' ∉ name) :
    ∃ before, pieces (d.join name).chars = before ++ [name]
      ∧ before.filter (· ≠ []) = d.steps := by
  rw [join_of_no_slash d h]
  have hname := pieces_of_no_slash h
  split
  · next hd =>
    rcases hd with hd | hd
    · exact ⟨[], by simp [hd, hname], by simp [steps, hd, pieces]⟩
    · obtain ⟨front, hfront⟩ := List.getLast?_eq_some_iff.mp hd
      refine ⟨pieces front, ?_, ?_⟩
      · change pieces (d.chars ++ name) = _
        rw [hfront, List.append_assoc, List.singleton_append, pieces_append_slash, hname]
      · rw [steps, hfront, pieces_append_slash, List.filter_append]
        simp [pieces]
  · refine ⟨pieces d.chars, ?_, rfl⟩
    change pieces (d.chars ++ '/' :: name) = _
    rw [pieces_append_slash, hname]

theorem endsIn_join (d : Path) {name : Name} (h : '/' ∉ name) : (d.join name).EndsIn name := by
  obtain ⟨before, h, -⟩ := pieces_join d h
  exact ⟨before, h⟩

theorem EndsIn.unique {p : Path} {name other : Name} (h : p.EndsIn name) (h' : p.EndsIn other) :
    name = other := by
  obtain ⟨before, h⟩ := h
  obtain ⟨before', h'⟩ := h'
  rw [h] at h'
  exact (List.cons.inj (List.append_inj' h' rfl).2).1

theorem steps_join (d : Path) {name : Name} (plain : Plain name) :
    (d.join name).steps = d.steps ++ [name] := by
  obtain ⟨before, h, hbefore⟩ := pieces_join d plain.no_slash
  rw [steps_of_pieces plain.ne_nil h, hbefore]

theorem isAbsolute_join (d : Path) {name : Name} (plain : Plain name) :
    (d.join name).isAbsolute = d.isAbsolute := by
  have hhead := head?_ne_slash plain.no_slash
  rw [join_of_no_slash d plain.no_slash]
  cases hd : d.chars with
  | nil => simp [isAbsolute, hd, hhead]
  | cons c rest => split <;> simp [isAbsolute, hd]

/-- More of a name behind a path goes to its last piece. -/
theorem pieces_append (t : Text) : ∃ before last, ∀ {tail : Text}, '/' ∉ tail →
    pieces (t ++ tail) = before ++ [last ++ tail] := by
  induction t with
  | nil => exact ⟨[], [], fun htail => pieces_of_no_slash htail⟩
  | cons c rest ih =>
    obtain ⟨before, last, hpieces⟩ := ih
    by_cases hc : c = '/'
    · subst hc
      refine ⟨[] :: before, last, fun htail => ?_⟩
      rw [List.cons_append, pieces_slash, hpieces htail, List.cons_append]
    · have hcons : ∀ {tail : Text} {first : Name} {others : List Name}, '/' ∉ tail →
          before ++ [last ++ tail] = first :: others →
            pieces (c :: (rest ++ tail)) = (c :: first) :: others := by
        intro tail first others htail heq
        obtain ⟨first', others', h, h'⟩ := pieces_cons hc (rest ++ tail)
        rw [hpieces htail, heq, List.cons.injEq] at h
        rw [h', h.1, h.2]
      cases before with
      | nil => exact ⟨[], c :: last, fun htail => hcons htail rfl⟩
      | cons first others => exact ⟨(c :: first) :: others, last, fun htail => hcons htail rfl⟩

theorem join_append (d : Path) {name : Name} (hname : name ≠ []) (tail : Text) :
    (d.join (name ++ tail)).chars = (d.join name).chars ++ tail := by
  obtain ⟨c, rest, rfl⟩ := List.exists_cons_of_ne_nil hname
  rw [join, join, List.cons_append, List.head?_cons, List.head?_cons]
  split
  · rfl
  · split <;> simp

theorem join_ne_nil (d : Path) {name : Name} (hname : name ≠ []) : (d.join name).chars ≠ [] := by
  rw [join]
  split
  · exact hname
  · split <;> simp [hname]

theorem withFileName_append (p : Path) {name : Name} (hname : name ≠ []) (tail : Text) :
    (p.withFileName (name ++ tail)).chars = (p.withFileName name).chars ++ tail := by
  rw [withFileName, withFileName]
  split <;> exact join_append _ hname tail

theorem withFileName_ne_nil (p : Path) {name : Name} (hname : name ≠ []) :
    (p.withFileName name).chars ≠ [] := by
  rw [withFileName]
  split <;> exact join_ne_nil _ hname

/-- Two paths that name two entries, `name` and `other`, of what is one directory on every disk. -/
structure Beside (p : Path) (name : Name) (q : Path) (other : Name) : Prop where
  absolute : q.isAbsolute = p.isAbsolute
  endsIn : q.EndsIn other
  steps : ∃ front dots dots', p.steps = front ++ dots ++ [name] ∧
    q.steps = front ++ dots' ++ [other] ∧ (∀ dot ∈ dots, dot = ['.']) ∧ ∀ dot ∈ dots', dot = ['.']

theorem beside_join (d : Path) {name other : Name} (h : Plain name) (h' : Plain other) :
    Beside (d.join name) name (d.join other) other where
  absolute := by rw [isAbsolute_join d h, isAbsolute_join d h']
  endsIn := endsIn_join d h'.no_slash
  steps := ⟨d.steps, [], [], by simp [steps_join d h], by simp [steps_join d h'], by simp, by simp⟩

theorem dropIdleEnd_append (pieces : List Name) :
    ∃ idle, pieces = dropIdleEnd pieces ++ idle ∧ ∀ piece ∈ idle, isIdle piece := by
  refine ⟨(pieces.reverse.takeWhile isIdle).reverse, ?_, ?_⟩
  · rw [dropIdleEnd, ← List.reverse_append, List.takeWhile_append_dropWhile, List.reverse_reverse]
  · intro piece hpiece
    exact List.all_eq_true.mp List.all_takeWhile piece (List.mem_reverse.mp hpiece)

theorem dropIdleEnd_concat (pieces : List Name) {name : Name} (plain : Plain name) :
    dropIdleEnd (pieces ++ [name]) = pieces ++ [name] := by
  have hidle : isIdle name = false := by simp [isIdle, plain.ne_nil, plain.ne_dot]
  simp [dropIdleEnd, hidle]

theorem eq_dot_of_idle {pieces : List Name} (h : ∀ piece ∈ pieces, isIdle piece) :
    ∀ step ∈ pieces.filter (· ≠ []), step = ['.'] := by
  intro step hstep
  obtain ⟨hmem, hne⟩ := List.mem_filter.mp hstep
  have hidle := h step hmem
  simp only [isIdle, Bool.or_eq_true, decide_eq_true_eq] at hidle
  rcases hidle with hidle | hidle
  · simp [hidle] at hne
  · exact hidle

theorem isAbsolute_of_pieces {p : Path} {first : Name} {rest : List Name}
    (h : pieces p.chars = first :: rest) : p.isAbsolute = (first = [] ∧ rest ≠ [] : Bool) := by
  cases hp : p.chars with
  | nil =>
    rw [hp] at h
    simp only [pieces, List.cons.injEq] at h
    simp [isAbsolute, hp, ← h.2]
  | cons c text =>
    by_cases hc : c = '/'
    · subst hc
      rw [hp, pieces_slash, List.cons.injEq] at h
      have := pieces_ne_nil text
      simp [isAbsolute, hp, ← h.1, ← h.2, this]
    · obtain ⟨first', others, -, h'⟩ := pieces_cons hc text
      rw [hp, h', List.cons.injEq] at h
      simp [isAbsolute, hp, hc, ← h.1]

theorem isAbsolute_of_nested {p : Path} {first name : Name} {middle : List Name}
    (h : pieces p.chars = first :: middle ++ [name]) : p.isAbsolute = decide (first = []) := by
  rw [isAbsolute_of_pieces h]
  simp

/-- Pieces that are put together again make up the same path, but for the root alone. -/
theorem leads_glue {first : Name} {kept : List Name}
    (noSlash : ∀ piece ∈ first :: kept, '/' ∉ piece) (hroot : ¬ (first = [] ∧ kept = [])) :
    (⟨glue (first :: kept)⟩ : Path).steps = (first :: kept).filter (· ≠ []) ∧
      (⟨glue (first :: kept)⟩ : Path).isAbsolute = decide (first = []) := by
  have hpieces : pieces (glue (first :: kept)) = first :: kept := pieces_glue (by simp) noSlash
  refine ⟨by simp only [steps, hpieces], ?_⟩
  rw [isAbsolute_of_pieces (p := ⟨glue (first :: kept)⟩) hpieces]
  by_cases hfirst : first = []
  · have : kept ≠ [] := fun hkept => hroot ⟨hfirst, hkept⟩
    simp [hfirst, this]
  · simp [hfirst]

theorem parent_of_nested {p : Path} {first name : Name} {middle : List Name}
    (h : pieces p.chars = first :: middle ++ [name]) (plain : Plain name) :
    ∃ parent, p.parent? = some parent ∧ parent.isAbsolute = p.isAbsolute ∧
      parent.steps = (first :: dropIdleEnd middle).filter (· ≠ []) := by
  have habs := isAbsolute_of_nested h
  have noSlash : ∀ piece ∈ first :: dropIdleEnd middle, '/' ∉ piece := by
    intro piece hpiece
    obtain ⟨idle, hidle, -⟩ := dropIdleEnd_append middle
    refine no_slash_of_mem_pieces (t := p.chars) ?_
    rw [h, hidle, ← List.cons_append, List.append_assoc]
    exact List.mem_append_left _ hpiece
  rw [parent?, h, List.cons_append]
  simp only [dropIdleEnd_concat middle plain, List.reverse_append, List.reverse_singleton,
    List.singleton_append, List.reverse_reverse]
  refine ⟨_, rfl, ?_⟩
  by_cases hroot : first = [] ∧ dropIdleEnd middle = []
  · obtain ⟨rfl, hkept⟩ := hroot
    have habs : p.isAbsolute = true := by simp [habs]
    rw [habs, hkept]
    exact ⟨rfl, by simp [steps, pieces]⟩
  · have hcond : (p.isAbsolute && decide (dropIdleEnd middle = [])) = false := by
      rw [habs]
      simpa using hroot
    obtain ⟨hsteps, habsolute⟩ := leads_glue noSlash hroot
    rw [hcond, habs]
    exact ⟨habsolute, hsteps⟩

/-- Between the parent of a path and its file name there is nothing that counts. -/
theorem parent_of_endsIn {p : Path} {name : Name} (hp : p.EndsIn name) (plain : Plain name) :
    ∃ parent dots, p.parent? = some parent ∧ parent.isAbsolute = p.isAbsolute ∧
      p.steps = parent.steps ++ dots ++ [name] ∧ ∀ dot ∈ dots, dot = ['.'] := by
  obtain ⟨before, hpieces⟩ := hp
  have hsteps := steps_of_pieces plain.ne_nil hpieces
  cases before with
  | nil =>
    refine ⟨⟨[]⟩, [], ?_, ?_, by simpa [steps, pieces] using hsteps, by simp⟩
    · rw [parent?, hpieces]
      simp [dropIdleEnd, plain.ne_nil]
    · rw [isAbsolute_of_pieces hpieces]
      simp [isAbsolute]
  | cons first middle =>
    obtain ⟨idle, hidle, hall⟩ := dropIdleEnd_append middle
    obtain ⟨parent, hparent, habs, hparentSteps⟩ := parent_of_nested hpieces plain
    refine ⟨parent, idle.filter (· ≠ []), hparent, habs, ?_, eq_dot_of_idle hall⟩
    have hmiddle : first :: middle = (first :: dropIdleEnd middle) ++ idle := by
      rw [List.cons_append, ← hidle]
    rw [hsteps, hparentSteps, hmiddle, List.filter_append]

/-- A path with its file name replaced leads into the same directory. -/
theorem beside_withFileName {p : Path} {name other : Name} (hp : p.EndsIn name) (h : Plain name)
    (h' : Plain other) : Beside p name (p.withFileName other) other := by
  obtain ⟨parent, dots, hparent, habs, hsteps, hdots⟩ := parent_of_endsIn hp h
  have heq : p.withFileName other = parent.join other := by
    rw [withFileName, hp.fileName? h, hparent]
  rw [heq]
  refine ⟨?_, endsIn_join _ h'.no_slash, parent.steps, dots, [], hsteps, ?_, hdots, by simp⟩
  · rw [isAbsolute_join _ h', habs]
  · rw [steps_join _ h', List.append_nil]

end Outbox.Path
