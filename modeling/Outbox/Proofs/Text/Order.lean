import Mathlib.Algebra.Group.Nat.Defs
import Mathlib.Data.List.Lex
import Outbox.Proofs.Text.Utf8
import Outbox.Text.Digits

/-!
# The order of texts

Texts are in the order of the bytes that encode them (`Text.Before`), which is that of their code
points: where the bytes of two characters differ first, the smaller one belongs to the character
with the smaller number (`Spells.lex`). What is compared here are texts that are put together from
parts of equal length, and such parts: numerals that are filled up to one width are in the order of
their numbers (`before_zeroed`).
-/

set_option autoImplicit false

namespace Outbox

namespace Utf8

/-- The order of single bytes. -/
def Less (x y : UInt8) : Prop :=
  x.toNat < y.toNat

instance : Std.Asymm Less :=
  ⟨fun _ _ => Nat.lt_asymm⟩

section Characters

variable {front front' : Bytes} {v v' : Nat}

/-- Of two characters the one with the smaller number comes first, whatever follows. -/
theorem Spells.lex (h : Spells front v) (h' : Spells front' v') (lt : v < v') (rest rest' : Bytes) :
    List.Lex Less (front ++ rest) (front' ++ rest') := by
  cases h with
  | one ha =>
    cases h' with
    | one ha' => exact .rel lt
    | two low => exact .rel (Nat.lt_of_lt_of_le ha (by omega))
    | three low => exact .rel (Nat.lt_of_lt_of_le ha (by omega))
    | four low => exact .rel (Nat.lt_of_lt_of_le ha (by omega))
  | @two a b low high hb =>
    rw [tailBits] at lt
    cases h' with
    | one ha' => omega
    | @two a' b' low' high' hb' =>
      rw [isContinuation_iff] at hb hb'
      rw [tailBits] at lt
      have first : a.toNat < a'.toNat ∨ a = a' ∧ b.toNat < b'.toNat := by
        rw [← UInt8.toNat_inj]
        omega
      rcases first with hless | ⟨rfl, hless⟩
      · exact .rel hless
      · exact .cons (.rel hless)
    | three low' => exact .rel (Nat.lt_of_lt_of_le high low')
    | four low' => exact .rel (Nat.lt_of_lt_of_le high (by omega))
  | @three a b c low high hb hc =>
    rw [isSecondOfThree_iff] at hb
    rw [tailBits, tailBits] at lt
    cases h' with
    | one ha' => omega
    | two low' high' hb' =>
      rw [tailBits] at lt
      omega
    | @three a' b' c' low' high' hb' hc' =>
      rw [isSecondOfThree_iff] at hb'
      rw [isContinuation_iff] at hc hc'
      rw [tailBits, tailBits] at lt
      have first : a.toNat < a'.toNat ∨ a = a' ∧ (b.toNat < b'.toNat ∨
          b = b' ∧ c.toNat < c'.toNat) := by
        rw [← UInt8.toNat_inj, ← UInt8.toNat_inj]
        omega
      rcases first with hless | ⟨rfl, hless | ⟨rfl, hless⟩⟩
      · exact .rel hless
      · exact .cons (.rel hless)
      · exact .cons (.cons (.rel hless))
    | four low' => exact .rel (Nat.lt_of_lt_of_le high low')
  | @four a b c d low high hb hc hd =>
    rw [isSecondOfFour_iff] at hb
    rw [tailBits, tailBits, tailBits] at lt
    cases h' with
    | one ha' => omega
    | two low' high' hb' =>
      rw [tailBits] at lt
      omega
    | three low' high' hb' hc' =>
      rw [tailBits, tailBits] at lt
      omega
    | @four a' b' c' d' low' high' hb' hc' hd' =>
      rw [isSecondOfFour_iff] at hb'
      rw [isContinuation_iff] at hc hc' hd hd'
      rw [tailBits, tailBits, tailBits] at lt
      have first : a.toNat < a'.toNat ∨ a = a' ∧ (b.toNat < b'.toNat ∨
          b = b' ∧ (c.toNat < c'.toNat ∨ c = c' ∧ d.toNat < d'.toNat)) := by
        rw [← UInt8.toNat_inj, ← UInt8.toNat_inj, ← UInt8.toNat_inj]
        omega
      rcases first with hless | ⟨rfl, hless | ⟨rfl, hless | ⟨rfl, hless⟩⟩⟩
      · exact .rel hless
      · exact .cons (.rel hless)
      · exact .cons (.cons (.rel hless))
      · exact .cons (.cons (.cons (.rel hless)))

end Characters

end Utf8

/-! ### Texts -/

namespace Text

/-- A text comes before another one in the order of their bytes. -/
def Before (a b : Text) : Prop :=
  List.Lex Utf8.Less (Utf8.encode a) (Utf8.encode b)

variable {a b c : Text}

theorem not_before_nil : ¬ Before a [] :=
  List.not_lex_nil

theorem Before.asymm (h : Before a b) : ¬ Before b a :=
  (List.Lex.asymm Utf8.Less).asymm _ _ h

theorem before_cons {x y : Char} :
    Before (x :: a) (y :: b) ↔ x.toNat < y.toNat ∨ x = y ∧ Before a b := by
  have chars : ∀ {x y : Char} (a b : Text), x.toNat < y.toNat → Before (x :: a) (y :: b) :=
    fun {x y} a b lt => (Utf8.spells_encodeChar x).lex (Utf8.spells_encodeChar y) lt _ _
  have tails : Before (x :: a) (x :: b) ↔ Before a b := by
    rw [Before, Utf8.encode, Utf8.encode, List.flatMap_cons, List.flatMap_cons]
    induction String.utf8EncodeChar x with
    | nil => rfl
    | cons byte bytes ih => rw [List.cons_append, List.cons_append, List.lex_cons_iff, ih]
  rcases Nat.lt_trichotomy x.toNat y.toNat with lt | heq | lt
  · exact iff_of_true (chars a b lt) (.inl lt)
  · obtain rfl := Char.toNat_inj.mp heq
    simp [tails]
  · refine iff_of_false (chars b a lt).asymm ?_
    rintro (hless | ⟨rfl, -⟩) <;> omega

theorem before_append_left (front : Text) : Before (front ++ a) (front ++ b) ↔ Before a b := by
  induction front with
  | nil => rfl
  | cons x front ih => simp [before_cons, ih]

/-- Of texts that begin with parts of equal length, these parts decide unless they are the same. -/
theorem before_append {x y : Text} (h : a.length = b.length) :
    Before (a ++ x) (b ++ y) ↔ Before a b ∨ a = b ∧ Before x y := by
  induction a generalizing b with
  | nil =>
    obtain rfl := List.eq_nil_of_length_eq_zero h.symm
    simp [not_before_nil]
  | cons d a ih =>
    cases b with
    | nil => simp at h
    | cons e b =>
      rw [List.length_cons, List.length_cons, Nat.add_right_cancel_iff] at h
      simp only [List.cons_append, before_cons, ih h, List.cons.injEq]
      tauto

/-- The order of code points is that of bytes. -/
theorem before_iff : Before a b ↔ atMost a b = true ∧ a ≠ b := by
  induction a generalizing b with
  | nil =>
    cases b with
    | nil => simp [not_before_nil]
    | cons y b =>
      have first : Before [] (y :: b) := by
        obtain ⟨byte, bytes, hbytes⟩ :=
          List.exists_cons_of_ne_nil (Utf8.spells_encodeChar y).ne_nil
        rw [Before, Utf8.encode, Utf8.encode, List.flatMap_cons, hbytes]
        exact .nil
      simp [first, atMost]
  | cons x a ih =>
    cases b with
    | nil => simp [not_before_nil, atMost]
    | cons y b =>
      simp only [before_cons, ih, atMost, Bool.or_eq_true, Bool.and_eq_true, decide_eq_true_eq,
        ne_eq, List.cons.injEq, not_and]
      grind

instance : DecidableRel Before :=
  fun _ _ => decidable_of_iff _ before_iff.symm

theorem atMost_total (a b : Text) : (atMost a b || atMost b a) = true := by
  induction a generalizing b with
  | nil => rfl
  | cons x a ih =>
    cases b with
    | nil => rfl
    | cons y b =>
      have tails := ih b
      simp only [atMost, Bool.or_eq_true, Bool.and_eq_true, decide_eq_true_eq] at tails ⊢
      rcases Nat.lt_trichotomy x.toNat y.toNat with lt | heq | lt
      · exact .inl (.inl lt)
      · obtain rfl := Char.toNat_inj.mp heq
        tauto
      · exact .inr (.inl lt)

theorem atMost_trans (h : atMost a b = true) (h' : atMost b c = true) : atMost a c = true := by
  induction a generalizing b c with
  | nil => rfl
  | cons x a ih =>
    cases b with
    | nil => simp [atMost] at h
    | cons y b =>
      cases c with
      | nil => simp [atMost] at h'
      | cons z c =>
        simp only [atMost, Bool.or_eq_true, Bool.and_eq_true, decide_eq_true_eq] at h h' ⊢
        rcases h with h | ⟨rfl, h⟩
        · rcases h' with h' | ⟨rfl, -⟩
          · exact .inl (Nat.lt_trans h h')
          · exact .inl h
        · exact h'.imp_right fun ⟨heq, h'⟩ => ⟨heq, ih h h'⟩

end Text

/-! ### Numerals -/

namespace Digits

open Text

theorem before_digit {n m : Nat} (lt : n < m) (bound : m < 10) :
    Before [Nat.digitChar n] [Nat.digitChar m] := by
  rw [before_cons, Nat.toNat_digitChar_of_lt_ten bound,
    Nat.toNat_digitChar_of_lt_ten (Nat.lt_trans lt bound)]
  omega

theorem before_decimal {n m : Nat} (lt : n < m) (bound : m < 10) :
    Before (decimal n) (decimal m) := by
  rw [decimal, decimal, Nat.toDigits_of_lt_base bound,
    Nat.toDigits_of_lt_base (Nat.lt_trans lt bound)]
  exact before_digit lt bound

/-- A numeral that is filled up is the numeral of the tens, filled up, and one digit more. -/
theorem zeroed_succ {width : Nat} (hwidth : 0 < width) (n : Nat) :
    zeroed (width + 1) n = zeroed width (n / 10) ++ [Nat.digitChar (n % 10)] := by
  rcases Nat.lt_or_ge n 10 with hlt | hge
  · obtain ⟨width, rfl⟩ := Nat.exists_eq_succ_of_ne_zero hwidth.ne'
    rw [Nat.div_eq_of_lt hlt, Nat.mod_eq_of_lt hlt, zeroed, zeroed, decimal, decimal, fillTo,
      fillTo, Nat.toDigits_of_lt_base hlt, Nat.toDigits_of_lt_base (by decide : 0 < 10)]
    simp [List.replicate_succ', Nat.digitChar]
  · rw [zeroed, zeroed, decimal, decimal, fillTo, fillTo,
      Nat.toDigits_of_base_le (by decide) hge]
    simp

theorem zeroed_one {n : Nat} (h : n < 10) : zeroed 1 n = [Nat.digitChar n] := by
  rw [zeroed, decimal, fillTo, Nat.toDigits_of_lt_base h]
  rfl

theorem length_zeroed {width n : Nat} (hwidth : 0 < width) (h : n < 10 ^ width) :
    (zeroed width n).length = width := by
  induction width, hwidth using Nat.le_induction generalizing n with
  | base => rw [zeroed_one (by simpa using h), List.length_singleton]
  | succ width hwidth ih =>
    rw [zeroed_succ hwidth, List.length_append, ih, List.length_singleton]
    rw [Nat.pow_succ] at h
    omega

/-- Numerals of one width are in the order of their numbers. -/
theorem before_zeroed {width n m : Nat} (hwidth : 0 < width) (lt : n < m) (h : m < 10 ^ width) :
    Before (zeroed width n) (zeroed width m) := by
  induction width, hwidth using Nat.le_induction generalizing n m with
  | base =>
    have bound : m < 10 := by simpa using h
    rw [zeroed_one bound, zeroed_one (Nat.lt_trans lt bound)]
    exact before_digit lt bound
  | succ width hwidth ih =>
    rw [Nat.pow_succ] at h
    have hlength : (zeroed width (n / 10)).length = (zeroed width (m / 10)).length := by
      rw [length_zeroed hwidth (by omega), length_zeroed hwidth (by omega)]
    rw [zeroed_succ hwidth, zeroed_succ hwidth, before_append hlength]
    rcases Nat.lt_or_ge (n / 10) (m / 10) with tens | tens
    · exact .inl (ih tens (by omega))
    · have heq : n / 10 = m / 10 := by omega
      exact .inr ⟨by rw [heq], before_digit (by omega) (by omega)⟩

end Digits

end Outbox
