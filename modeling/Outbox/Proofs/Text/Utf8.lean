import Mathlib.Tactic.Convert
import Outbox.Text.Utf8

/-!
# UTF-8

`decode` is the inverse of `encode`: it gives a text exactly for the bytes that encode one
(`decode_ok_iff`). Between the two stands `Spells`, the shapes that the bytes of a character can
have and the number that they spell. Bytes below 128 are characters of their own, so that a text can
be cut at each of them (`IsText.cut`).
-/

set_option autoImplicit false

namespace Outbox.Utf8

/-! ### The bytes of a character -/

/-- The bytes of a character, and its code point. -/
inductive Spells : Bytes → Nat → Prop
  | one {a : UInt8} : a.toNat < 128 → Spells [a] a.toNat
  | two {a b : UInt8} : 194 ≤ a.toNat → a.toNat < 224 → isContinuation b = true →
    Spells [a, b] (a.toNat % 32 * 64 + tailBits b)
  | three {a b c : UInt8} : 224 ≤ a.toNat → a.toNat < 240 → isSecondOfThree a b = true →
    isContinuation c = true →
    Spells [a, b, c] (a.toNat % 16 * 4096 + tailBits b * 64 + tailBits c)
  | four {a b c d : UInt8} : 240 ≤ a.toNat → a.toNat < 245 → isSecondOfFour a b = true →
    isContinuation c = true → isContinuation d = true →
    Spells [a, b, c, d]
      (a.toNat % 8 * 262144 + tailBits b * 4096 + tailBits c * 64 + tailBits d)

section Ranges

variable {a b : UInt8}

theorem isContinuation_iff : isContinuation b = true ↔ 128 ≤ b.toNat ∧ b.toNat ≤ 191 := by
  simp [isContinuation, UInt8.le_iff_toNat_le]

theorem isSecondOfThree_iff : isSecondOfThree a b = true ↔
    128 ≤ b.toNat ∧ b.toNat ≤ 191 ∧ (a.toNat = 224 → 160 ≤ b.toNat) ∧
      (a.toNat = 237 → b.toNat ≤ 159) := by
  have first : a = 0xE0 ↔ a.toNat = 224 := UInt8.toNat_inj.symm
  have last : a = 0xED ↔ a.toNat = 237 := UInt8.toNat_inj.symm
  simp only [isSecondOfThree, first, last]
  split
  · simp only [Bool.and_eq_true, decide_eq_true_eq, UInt8.le_iff_toNat_le, UInt8.reduceToNat]
    omega
  split
  · simp only [Bool.and_eq_true, decide_eq_true_eq, UInt8.le_iff_toNat_le, UInt8.reduceToNat]
    omega
  · rw [isContinuation_iff]
    omega

theorem isSecondOfFour_iff : isSecondOfFour a b = true ↔
    128 ≤ b.toNat ∧ b.toNat ≤ 191 ∧ (a.toNat = 240 → 144 ≤ b.toNat) ∧
      (a.toNat = 244 → b.toNat ≤ 143) := by
  have first : a = 0xF0 ↔ a.toNat = 240 := UInt8.toNat_inj.symm
  have last : a = 0xF4 ↔ a.toNat = 244 := UInt8.toNat_inj.symm
  simp only [isSecondOfFour, first, last]
  split
  · simp only [Bool.and_eq_true, decide_eq_true_eq, UInt8.le_iff_toNat_le, UInt8.reduceToNat]
    omega
  split
  · simp only [Bool.and_eq_true, decide_eq_true_eq, UInt8.le_iff_toNat_le, UInt8.reduceToNat]
    omega
  · rw [isContinuation_iff]
    omega

end Ranges

section Characters

variable {bytes : Bytes} {v : Nat}

theorem toNat_byte {n : Nat} (h : n < 256) : (UInt8.ofNat n).toNat = n := by
  rw [UInt8.toNat_ofNat']
  exact Nat.mod_eq_of_lt h

theorem spells_encodeChar (ch : Char) : Spells (String.utf8EncodeChar ch) ch.toNat := by
  have valid : ch.toNat.isValidChar := ch.valid
  rw [Nat.isValidChar] at valid
  generalize hv : ch.toNat = v at valid
  have hval : ch.val.toNat = v := hv
  simp only [String.utf8EncodeChar, hval]
  have tail : ∀ n, (UInt8.ofNat (n % 64 + 128)).toNat = n % 64 + 128 := fun n =>
    toNat_byte (by omega)
  have tailBits_tail : ∀ n, tailBits (UInt8.ofNat (n % 64 + 128)) = n % 64 := fun n => by
    rw [tailBits, tail]
    omega
  have continues : ∀ n, isContinuation (UInt8.ofNat (n % 64 + 128)) = true := fun n => by
    rw [isContinuation_iff, tail]
    omega
  split
  · next h =>
    have hbyte := toNat_byte (show v < 256 by omega)
    have hspells := Spells.one (a := .ofNat v) (by rw [hbyte]; omega)
    rwa [hbyte] at hspells
  split
  · next h₁ h₂ =>
    have hbyte := toNat_byte (show v / 64 % 32 + 192 < 256 by omega)
    have hspells := Spells.two (a := .ofNat (v / 64 % 32 + 192)) (by rw [hbyte]; omega)
      (by rw [hbyte]; omega) (continues v)
    rw [hbyte, tailBits_tail] at hspells
    convert hspells using 1
    omega
  split
  · next h₁ h₂ h₃ =>
    have hbyte := toNat_byte (show v / 4096 % 16 + 224 < 256 by omega)
    have hsecond : isSecondOfThree (.ofNat (v / 4096 % 16 + 224)) (.ofNat (v / 64 % 64 + 128))
        = true := by
      rw [isSecondOfThree_iff, hbyte, tail]
      omega
    have hspells := Spells.three (by rw [hbyte]; omega) (by rw [hbyte]; omega) hsecond
      (continues v)
    rw [hbyte, tailBits_tail, tailBits_tail] at hspells
    convert hspells using 1
    omega
  · next h₁ h₂ h₃ =>
    have hbyte := toNat_byte (show v / 262144 % 8 + 240 < 256 by omega)
    have hsecond : isSecondOfFour (.ofNat (v / 262144 % 8 + 240)) (.ofNat (v / 4096 % 64 + 128))
        = true := by
      rw [isSecondOfFour_iff, hbyte, tail]
      omega
    have hspells := Spells.four (by rw [hbyte]; omega) (by rw [hbyte]; omega) hsecond
      (continues (v / 64)) (continues v)
    rw [hbyte, tailBits_tail, tailBits_tail, tailBits_tail] at hspells
    convert hspells using 1
    omega

theorem byte_of_toNat {a : UInt8} {n : Nat} (h : n = a.toNat) : UInt8.ofNat n = a := by
  rw [h, UInt8.ofNat_toNat]

theorem encodeChar_of_spells (h : Spells bytes v) :
    (Char.ofNat v).toNat = v ∧ String.utf8EncodeChar (Char.ofNat v) = bytes := by
  obtain ⟨w, hw, h⟩ : ∃ w, v = w ∧ Spells bytes w := ⟨v, rfl, h⟩
  have hvalid : v.isValidChar := by
    rw [Nat.isValidChar]
    cases h with
    | one ha => omega
    | two ha ha' hb => rw [tailBits] at hw; omega
    | three ha ha' hb hc =>
      rw [isSecondOfThree_iff] at hb
      rw [isContinuation_iff] at hc
      rw [tailBits, tailBits] at hw
      omega
    | four ha ha' hb hc hd =>
      rw [isSecondOfFour_iff] at hb
      rw [isContinuation_iff] at hc hd
      rw [tailBits, tailBits, tailBits] at hw
      omega
  have hnumber : (Char.ofNat v).toNat = v := by
    rw [Char.ofNat, dif_pos hvalid]
    rfl
  refine ⟨hnumber, ?_⟩
  have hval : (Char.ofNat v).val.toNat = v := hnumber
  simp only [String.utf8EncodeChar, hval]
  cases h with
  | one ha => rw [if_pos (by omega), byte_of_toNat hw]
  | two ha ha' hb =>
    rw [isContinuation_iff] at hb
    rw [tailBits] at hw
    rw [if_neg (by omega), if_pos (by omega)]
    simp only [List.cons.injEq, and_true]
    exact ⟨byte_of_toNat (by omega), byte_of_toNat (by omega)⟩
  | three ha ha' hb hc =>
    rw [isSecondOfThree_iff] at hb
    rw [isContinuation_iff] at hc
    rw [tailBits, tailBits] at hw
    rw [if_neg (by omega), if_neg (by omega), if_pos (by omega)]
    simp only [List.cons.injEq, and_true]
    exact ⟨byte_of_toNat (by omega), byte_of_toNat (by omega), byte_of_toNat (by omega)⟩
  | four ha ha' hb hc hd =>
    rw [isSecondOfFour_iff] at hb
    rw [isContinuation_iff] at hc hd
    rw [tailBits, tailBits, tailBits] at hw
    rw [if_neg (by omega), if_neg (by omega), if_neg (by omega)]
    simp only [List.cons.injEq, and_true]
    exact ⟨byte_of_toNat (by omega), byte_of_toNat (by omega), byte_of_toNat (by omega),
      byte_of_toNat (by omega)⟩

end Characters

/-! ### Decoding -/

section Decoding

variable {index v : Nat} {read text : Text} {bytes front rest : Bytes}

/-- The bytes of a character are read as that character. -/
theorem decodeFrom_spells (h : Spells front v) :
    decodeFrom index read (front ++ rest)
      = decodeFrom (index + front.length) (Char.ofNat v :: read) rest := by
  rw [decodeFrom.eq_def]
  simp only [UInt8.lt_iff_toNat_lt, UInt8.reduceToNat]
  cases h with
  | one ha => simp only [List.cons_append, List.nil_append, if_pos ha, List.length_cons,
      List.length_nil]
  | two ha ha' hb =>
    dsimp only [List.cons_append, List.nil_append]
    rw [if_neg (by omega), if_neg (by omega), if_pos ha', if_pos hb]
    rfl
  | three ha ha' hb hc =>
    dsimp only [List.cons_append, List.nil_append]
    rw [if_neg (by omega), if_neg (by omega), if_neg (by omega), if_pos ha', if_pos hb, if_pos hc]
    rfl
  | four ha ha' hb hc hd =>
    dsimp only [List.cons_append, List.nil_append]
    rw [if_neg (by omega), if_neg (by omega), if_neg (by omega), if_neg (by omega), if_pos ha',
      if_pos hb, if_pos hc, if_pos hd]
    rfl

theorem spells_of_decodeFrom (h : decodeFrom index read bytes = .ok text) :
    (bytes = [] ∧ text = read.reverse) ∨ ∃ front v rest, bytes = front ++ rest ∧ Spells front v ∧
      decodeFrom (index + front.length) (Char.ofNat v :: read) rest = .ok text := by
  rw [decodeFrom.eq_def] at h
  split at h
  · exact .inl ⟨rfl, (Except.ok.inj h).symm⟩
  refine .inr ?_
  simp only [UInt8.lt_iff_toNat_lt, UInt8.reduceToNat] at h
  split at h
  · next a rest h₁ => exact ⟨[a], _, rest, rfl, .one h₁, h⟩
  split at h
  · exact absurd h (by simp)
  split at h
  · next h₂ h₃ =>
    -- two bytes
    split at h
    · exact absurd h (by simp)
    split at h
    · next b rest hb => exact ⟨[_, b], _, rest, rfl, .two (by omega) h₃ hb, h⟩
    · exact absurd h (by simp)
  split at h
  · next h₃ h₄ =>
    -- three bytes
    split at h
    · exact absurd h (by simp)
    split at h
    · next b rest hb =>
      split at h
      · exact absurd h (by simp)
      split at h
      · next c rest hc => exact ⟨[_, b, c], _, rest, rfl, .three (by omega) h₄ hb hc, h⟩
      · exact absurd h (by simp)
    · exact absurd h (by simp)
  split at h
  · next h₄ h₅ =>
    -- four bytes
    split at h
    · exact absurd h (by simp)
    split at h
    · next b rest hb =>
      split at h
      · exact absurd h (by simp)
      split at h
      · next c rest hc =>
        split at h
        · exact absurd h (by simp)
        split at h
        · next d rest hd => exact ⟨[_, b, c, d], _, rest, rfl, .four (by omega) h₅ hb hc hd, h⟩
        · exact absurd h (by simp)
      · exact absurd h (by simp)
    · exact absurd h (by simp)
  · exact absurd h (by simp)

theorem Spells.ne_nil (h : Spells front v) : front ≠ [] := by
  cases h <;> simp

theorem decodeFrom_encode (text : Text) (index : Nat) (read : Text) :
    decodeFrom index read (encode text) = .ok (read.reverse ++ text) := by
  induction text generalizing index read with
  | nil => rw [List.append_nil]; rfl
  | cons ch text ih =>
    rw [encode, List.flatMap_cons, decodeFrom_spells (spells_encodeChar ch), Char.ofNat_toNat]
    rw [encode] at ih
    rw [ih, List.reverse_cons, List.append_assoc]
    rfl

theorem encode_of_decodeFrom (h : decodeFrom index read bytes = .ok text) :
    ∃ more, text = read.reverse ++ more ∧ encode more = bytes := by
  induction hn : bytes.length using Nat.strongRecOn generalizing index read bytes with
  | ind n ih =>
  rcases spells_of_decodeFrom h with ⟨rfl, rfl⟩ | ⟨front, v, rest, rfl, spells, h⟩
  · exact ⟨[], by rw [List.append_nil], rfl⟩
  · have hpos := List.length_pos_iff.mpr spells.ne_nil
    rw [List.length_append] at hn
    obtain ⟨more, rfl, rfl⟩ := ih rest.length (by omega) h rfl
    refine ⟨Char.ofNat v :: more, by simp, ?_⟩
    rw [encode, List.flatMap_cons, (encodeChar_of_spells spells).2]
    rfl

/-- Bytes are decoded to the text that they encode. -/
theorem decode_ok_iff : decode bytes = .ok text ↔ encode text = bytes := by
  constructor
  · intro h
    obtain ⟨more, rfl, hmore⟩ := encode_of_decodeFrom h
    exact hmore
  · rintro rfl
    exact decodeFrom_encode text 0 []

end Decoding

/-! ### Texts and parts of texts -/

def IsText (bytes : Bytes) : Prop :=
  ∃ text, encode text = bytes

section Parts

variable {b : UInt8} {bytes front rest : Bytes}

theorem isText_iff : IsText bytes ↔ (decode bytes).toBool = true := by
  constructor
  · rintro ⟨text, h⟩
    rw [decode_ok_iff.mpr h]
    rfl
  · intro h
    cases hdecode : decode bytes with
    | error e => rw [hdecode] at h; exact absurd h Bool.noConfusion
    | ok text => exact ⟨text, decode_ok_iff.mp hdecode⟩

instance : DecidablePred IsText :=
  fun _ => decidable_of_iff _ isText_iff.symm

/-- A byte below 128 is a character of its own. -/
theorem Spells.eq_of_mem {v : Nat} (h : Spells bytes v) (hb : b.toNat < 128) (hmem : b ∈ bytes) :
    bytes = [b] := by
  cases h with
  | one ha => rw [List.mem_singleton.mp hmem]
  | two ha ha' hc =>
    rw [isContinuation_iff] at hc
    simp only [List.mem_cons, List.not_mem_nil, or_false] at hmem
    rcases hmem with rfl | rfl <;> omega
  | three ha ha' hc hd =>
    rw [isSecondOfThree_iff] at hc
    rw [isContinuation_iff] at hd
    simp only [List.mem_cons, List.not_mem_nil, or_false] at hmem
    rcases hmem with rfl | rfl | rfl <;> omega
  | four ha ha' hc hd he =>
    rw [isSecondOfFour_iff] at hc
    rw [isContinuation_iff] at hd he
    simp only [List.mem_cons, List.not_mem_nil, or_false] at hmem
    rcases hmem with rfl | rfl | rfl | rfl <;> omega

/-- Where a byte below 128 stands in a text, the text can be cut: before it and after it there are
texts. -/
theorem IsText.cut (hb : b.toNat < 128) (h : IsText (front ++ b :: rest)) :
    IsText front ∧ IsText rest := by
  obtain ⟨text, h⟩ := h
  induction text generalizing front with
  | nil => exact absurd h (by simp [encode])
  | cons ch text ih =>
    rw [encode, List.flatMap_cons, List.append_eq_append_iff] at h
    rcases h with ⟨more, rfl, hmore⟩ | ⟨more, hmore, hrest⟩
    · obtain ⟨⟨before, hbefore⟩, after⟩ := ih hmore
      refine ⟨⟨ch :: before, ?_⟩, after⟩
      rw [encode, List.flatMap_cons, ← hbefore]
      rfl
    · cases more with
      | nil =>
        obtain ⟨-, after⟩ := @ih [] hrest.symm
        exact ⟨⟨[ch], by simpa [encode] using hmore⟩, after⟩
      | cons b' more =>
        obtain ⟨rfl, rfl⟩ := List.cons.inj hrest
        have hchar := (spells_encodeChar ch).eq_of_mem hb (by rw [hmore]; simp)
        rw [hchar] at hmore
        obtain ⟨rfl, rfl⟩ : front = [] ∧ more = [] := by
          cases front <;> simp_all
        exact ⟨⟨[], rfl⟩, ⟨text, rfl⟩⟩

end Parts

end Outbox.Utf8
