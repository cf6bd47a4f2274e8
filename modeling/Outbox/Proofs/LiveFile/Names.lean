import Mathlib.Data.List.Nodup
import Mathlib.Data.List.Perm.Subperm
import Outbox.LiveFile
import Outbox.Proofs.Disk.Operations

/-!
# The names of rolled files

The name that a rollover gives goes on after the live file's name, with a stamp and perhaps a
number, and ends in a digit. It is never the name of an entry that a path can find: there are not
as many entries as names that are tried.
-/

set_option autoImplicit false

namespace Outbox

/-! ### Digits -/

namespace Digits

theorem decimal_injective {n m : Nat} (h : decimal n = decimal m) : n = m := by
  have hvalue := congrArg (fun digits => Nat.ofDigitChars 10 digits 0) h
  simpa only [decimal, Nat.ofDigitChars_ten_toDigits] using hvalue

theorem isDigit_of_mem_decimal {n : Nat} {c : Char} (h : c ∈ decimal n) : c.isDigit :=
  Nat.isDigit_of_mem_toDigits (by decide) (by decide) h

end Digits

/-- What a rollover adds to a name: it is no path of its own and ends in a digit. -/
structure Tail (tail : Text) : Prop where
  no_slash : '/' ∉ tail
  ends : ∃ c, tail.getLast? = some c ∧ c.isDigit

namespace Tail

theorem ne_nil {tail : Text} (h : Tail tail) : tail ≠ [] := by
  rintro rfl
  obtain ⟨c, hc, -⟩ := h.ends
  exact absurd hc (by simp)

theorem decimal (n : Nat) : Tail (Digits.decimal n) where
  no_slash := fun h => absurd (Digits.isDigit_of_mem_decimal h) (by decide)
  ends := by
    cases hlast : (Digits.decimal n).getLast? with
    | none => exact absurd (List.getLast?_eq_none_iff.mp hlast) Nat.toDigits_ne_nil
    | some c => exact ⟨c, rfl, Digits.isDigit_of_mem_decimal (List.mem_of_getLast? hlast)⟩

/-- What ends in a point and a tail is a name. -/
theorem last {front tail : Text} (h : Tail tail) : Last (front ++ '.' :: tail) := by
  obtain ⟨c, hc, hdigit⟩ := h.ends
  have hends : (front ++ '.' :: tail).getLast? = some c := by
    rw [List.getLast?_append, List.getLast?_cons_of_ne_nil h.ne_nil, hc]
    rfl
  have hpoint : c ≠ '.' := by
    rintro rfl
    exact absurd hdigit (by decide)
  refine ⟨fun heq => hpoint ?_, fun heq => hpoint ?_⟩ <;>
  · rw [heq] at hends
    exact (Option.some.inj hends).symm

theorem cons_append {front tail : Text} (hfront : '/' ∉ front) (h : Tail tail) :
    Tail (front ++ tail) where
  no_slash := by
    rw [List.mem_append, not_or]
    exact ⟨hfront, h.no_slash⟩
  ends := by
    obtain ⟨c, hc, hdigit⟩ := h.ends
    exact ⟨c, by rw [List.getLast?_append, hc]; rfl, hdigit⟩

end Tail

/-- A name that goes on after another one with a point and a tail. -/
def Follows (base name : Name) : Prop :=
  ∃ tail, name = base ++ '.' :: tail ∧ Tail tail

namespace Follows

variable {base name : Name}

theorem plain (hbase : Plain base) (h : Follows base name) : Plain name := by
  obtain ⟨tail, rfl, htail⟩ := h
  have hlength : 0 < tail.length := List.length_pos_iff_ne_nil.mpr htail.ne_nil
  have hbaseLength : 0 < base.length := List.length_pos_iff_ne_nil.mpr hbase.ne_nil
  refine ⟨by simp, ?_, ?_, ?_⟩
  · rw [List.mem_append, List.mem_cons, not_or, not_or]
    exact ⟨hbase.no_slash, by decide, htail.no_slash⟩
  · intro h
    have := congrArg List.length h
    simp only [List.length_append, List.length_cons, List.length_nil] at this
    omega
  · intro h
    have := congrArg List.length h
    simp only [List.length_append, List.length_cons, List.length_nil] at this
    omega

theorem ne (h : Follows base name) : base ≠ name := by
  obtain ⟨tail, rfl, -⟩ := h
  simp

theorem numbered (h : Follows base name) (n : Nat) :
    Follows base (name ++ '.' :: Digits.decimal n) := by
  obtain ⟨tail, rfl, htail⟩ := h
  refine ⟨tail ++ '.' :: Digits.decimal n, by simp, ?_⟩
  have hdot : '/' ∉ tail ++ ['.'] := by
    rw [List.mem_append, not_or]
    exact ⟨htail.no_slash, by decide⟩
  simpa using Tail.cons_append hdot (Tail.decimal n)

end Follows

/-! ### Stamps -/

namespace Pattern

theorem no_slash_of_digits {n : Nat} : '/' ∉ Digits.decimal n := fun h =>
  absurd (Digits.isDigit_of_mem_decimal h) (by decide)

theorem char_ofNat_ne_slash (n : Nat) : Char.ofNat (48 + n) ≠ '/' := by
  intro h
  by_cases hvalid : (48 + n).isValidChar
  · rw [Char.ofNat, dif_pos hvalid] at h
    have hval : 48 + n = 47 := congrArg Char.toNat h
    omega
  · rw [Char.ofNat, dif_neg hvalid] at h
    exact absurd h (by decide)

theorem twoPlaces_tail (n : Nat) : Tail (twoPlaces .zero n) where
  no_slash := by
    rw [twoPlaces, List.mem_cons, List.mem_singleton, not_or]
    exact ⟨(char_ofNat_ne_slash _).symm, (char_ofNat_ne_slash _).symm⟩
  ends := by
    refine ⟨Char.ofNat (48 + n % 10), rfl, ?_⟩
    have hlt : n % 10 < 10 := Nat.mod_lt n (by decide)
    generalize n % 10 = k at hlt
    revert k
    decide

theorem signedText_no_slash (signed : Bool) (width : Nat) (n : Int) :
    '/' ∉ signedText signed width .zero n := by
  simp only [signedText, Digits.fillTo, List.mem_append, List.mem_replicate, not_or]
  refine ⟨?_, fun h => absurd h.2 (by decide), no_slash_of_digits⟩
  split
  · decide
  · split <;> decide

theorem yearText_no_slash (year : Int) : '/' ∉ yearText .zero year := by
  rw [yearText]
  split <;> exact signedText_no_slash _ _ _

end Pattern

namespace LiveFile

open Pattern

theorem stampItems : items? stampPattern
    = some [.number .year .zero, .literal '-', .number .month .zero, .literal '-',
        .number .day .zero, .literal 'T', .number .hour .zero, .literal ':',
        .number .minute .zero, .literal ':', .number .second .zero] := by
  rfl

theorem stamp_tail {t : Timestamp} {stamp : Text} (h : t.format? stampPattern = some stamp) :
    Tail stamp := by
  rw [Timestamp.format?, stampItems, Option.map_some, Option.some.injEq] at h
  subst h
  simp only [List.flatMap_cons, List.flatMap_nil, itemText, numberText, List.append_nil]
  have hliteral : ∀ c : Char, c ≠ '/' → '/' ∉ [c] := by
    intro c hc
    rw [List.mem_singleton]
    exact hc.symm
  refine .cons_append (yearText_no_slash _) ?_
  refine .cons_append (hliteral '-' (by decide)) ?_
  refine .cons_append (twoPlaces_tail _).no_slash ?_
  refine .cons_append (hliteral '-' (by decide)) ?_
  refine .cons_append (twoPlaces_tail _).no_slash ?_
  refine .cons_append (hliteral 'T' (by decide)) ?_
  refine .cons_append (twoPlaces_tail _).no_slash ?_
  refine .cons_append (hliteral ':' (by decide)) ?_
  refine .cons_append (twoPlaces_tail _).no_slash ?_
  exact .cons_append (hliteral ':' (by decide)) (twoPlaces_tail _)

/-! ### Free names -/

section Free

variable {d : Disk} {path : Path}

theorem numberedName_eq (d : Disk) (path : Path) (base : Name) (tries n : Nat) :
    ∃ k, numberedName d path base tries n
      = path.withFileName (base ++ '.' :: Digits.decimal k) := by
  induction tries generalizing n with
  | zero => exact ⟨n, rfl⟩
  | succ tries ih =>
    rw [numberedName]
    split
    · exact ih (n + 1)
    · exact ⟨n, rfl⟩

/-- A numbered name that is not free comes after as many others as were tried. -/
theorem exists_of_numberedName {base : Name} {tries n : Nat}
    (h : d.exists? (numberedName d path base tries n) = true) :
    ∀ k ≤ tries, d.exists? (path.withFileName (base ++ '.' :: Digits.decimal (n + k))) = true := by
  induction tries generalizing n with
  | zero =>
    intro k hk
    obtain rfl : k = 0 := by omega
    exact h
  | succ tries ih =>
    rw [numberedName] at h
    split at h
    · next hfirst =>
      intro k hk
      cases k with
      | zero => exact hfirst
      | succ k =>
        have hrest := ih h k (by omega)
        rwa [show n + 1 + k = n + (k + 1) by omega] at hrest
    · next hfirst => exact absurd h hfirst

theorem freeName_eq (d : Disk) (path : Path) (base : Name) :
    freeName d path base = path.withFileName base ∨
      ∃ k, freeName d path base = path.withFileName (base ++ '.' :: Digits.decimal k) := by
  rw [freeName]
  split
  · exact .inr (numberedName_eq d path base _ _)
  · exact .inl rfl

/-- A name that goes on after another one still does so when it is made free. -/
theorem freeName_follows (d : Disk) (path : Path) {name base : Name} (h : Follows name base) :
    ∃ other, Follows name other ∧ freeName d path base = path.withFileName other := by
  rcases freeName_eq d path base with hbase | ⟨k, hnumbered⟩
  · exact ⟨base, h, hbase⟩
  · exact ⟨_, h.numbered k, hnumbered⟩

theorem numbered_steps (path : Path) {base : Name} (hbase : base ≠ []) :
    ∃ absolute front last, ∀ n,
      let candidate := path.withFileName (base ++ '.' :: Digits.decimal n)
      candidate.isAbsolute = absolute ∧
        candidate.steps = front ++ [last ++ '.' :: Digits.decimal n] ∧
        candidate.chars.getLast? ≠ some '/' := by
  have hchars : (path.withFileName base).chars ≠ [] := Path.withFileName_ne_nil path hbase
  have hslash : ∀ n, '/' ∉ '.' :: Digits.decimal n := by
    intro n
    rw [List.mem_cons, not_or]
    exact ⟨by decide, Pattern.no_slash_of_digits⟩
  obtain ⟨before, last, hpieces⟩ := Path.pieces_append (path.withFileName base).chars
  refine ⟨(path.withFileName base).isAbsolute, before.filter (· ≠ []), last, fun n => ?_⟩
  have heq := Path.withFileName_append path hbase ('.' :: Digits.decimal n)
  have hlast := hpieces (hslash n)
  rw [← heq] at hlast
  refine ⟨?_, Path.steps_of_pieces (by simp) hlast, Path.getLast?_ne_slash (by simp) hlast⟩
  rw [Path.isAbsolute, heq, List.head?_append_of_ne_nil _ hchars]
  rfl

/-- The numbered names of a base that are there are entries of one directory. -/
theorem exists_numbered (d : Disk) (path : Path) {base : Name} (hbase : base ≠ []) :
    ∃ dir last, ∀ n, d.exists? (path.withFileName (base ++ '.' :: Digits.decimal n)) = true →
      d.node? (dir ++ [last ++ '.' :: Digits.decimal n]) ≠ none := by
  obtain ⟨absolute, front, last, hsteps⟩ := numbered_steps path hbase
  have hentry : ∀ n, d.exists? (path.withFileName (base ++ '.' :: Digits.decimal n)) = true →
      ∃ used dir, Disk.Walk d used (if absolute then [] else d.start) front dir ∧
        d.node? (dir ++ [last ++ '.' :: Digits.decimal n]) ≠ none := by
    intro n hexists
    obtain ⟨habsolute, hfront, hslash⟩ := hsteps n
    obtain ⟨goal, slash, hgoal⟩ := Disk.goal_of_exists hexists
    obtain ⟨used, dir, rfl, hwalk, -⟩ := Disk.walk_of_goal hfront (Tail.decimal n).last hgoal
    obtain ⟨-, hends, -⟩ := Disk.goal_ok hgoal
    obtain rfl : slash = false := by rw [hends, decide_eq_false hslash]
    refine ⟨used, dir, ?_, (Disk.only_of_goal hgoal).2.exists_node hexists⟩
    rwa [Disk.origin, habsolute] at hwalk
  by_cases hsome : ∃ n, d.exists? (path.withFileName (base ++ '.' :: Digits.decimal n)) = true
  · obtain ⟨n, hn⟩ := hsome
    obtain ⟨used, dir, hwalk, -⟩ := hentry n hn
    refine ⟨dir, last, fun m hm => ?_⟩
    obtain ⟨used', dir', hwalk', hnode⟩ := hentry m hm
    rwa [(hwalk.unique hwalk').2]
  · exact ⟨[], last, fun n hn => absurd ⟨n, hn⟩ hsome⟩

/-- No more names are taken than there are entries. -/
theorem exists_freeName (d : Disk) (path : Path) {base : Name} (hbase : base ≠ []) :
    d.exists? (freeName d path base) = false := by
  rw [freeName]
  split
  · rw [Bool.eq_false_iff]
    intro hnumbered
    obtain ⟨dir, last, taken⟩ := exists_numbered d path hbase
    have htried := exists_of_numberedName hnumbered
    let place : Nat → Location := fun n => dir ++ [last ++ '.' :: Digits.decimal n]
    have hplace : ∀ a b, place a = place b → a = b := by
      intro a b h
      simp only [place, List.append_cancel_left_eq, List.cons.injEq, and_true, true_and] at h
      exact Digits.decimal_injective h
    have hnodup : ((List.range (d.nodes.length + 1)).map fun k => place (1 + k)).Nodup := by
      refine List.Nodup.map (fun a b h => ?_) List.nodup_range
      have := hplace _ _ h
      omega
    have hsubset : ((List.range (d.nodes.length + 1)).map fun k => place (1 + k))
        ⊆ d.nodes.map Prod.fst := by
      intro loc hloc
      obtain ⟨k, hk, rfl⟩ := List.mem_map.mp hloc
      obtain ⟨node, hnode⟩ := Option.ne_none_iff_exists'.mp
        (taken (1 + k) (htried k (Nat.le_of_lt_succ (List.mem_range.mp hk))))
      rw [d.node?_entry] at hnode
      exact List.mem_map.mpr ⟨_, Disk.mem_of_lookup hnode, rfl⟩
    have hlength := (List.subperm_of_subset hnodup hsubset).length_le
    rw [List.length_map, List.length_map, List.length_range] at hlength
    omega
  · next hbase => exact Bool.eq_false_iff.mpr hbase

end Free

end LiveFile

end Outbox
