import Outbox.Proofs.LiveFile.Names
import Outbox.Proofs.Text.Order

/-!
# The order of stamps

A later day has a later date, field by field from the year on (`Calendar.date_lt`): a year begins on
the same day of its cycle for all of its days, and within a year the months come one after the
other. Each field of a stamp has one width as long as the year has four digits, so the bytes of
stamps are in the order of time (`before_stampAt`).
-/

set_option autoImplicit false

namespace Outbox

/-! ### The calendar -/

namespace Calendar

theorem yearStart_le (year : Nat) : yearStart year ≤ 366 * year := by
  rw [yearStart]
  omega

theorem yearStart_mono {year year' : Nat} (h : year ≤ year') :
    yearStart year ≤ yearStart year' := by
  rw [yearStart, yearStart]
  rcases Nat.eq_or_lt_of_le h with rfl | hlt
  · rfl
  · omega

theorem yearStart_yearOfDay (day : Nat) : yearStart (yearOfDay day) ≤ day := by
  rw [yearOfDay]
  split
  · assumption
  · exact (yearStart_le _).trans (Nat.mul_div_le day 366)

theorem yearOfDay_mono {day day' : Nat} (h : day ≤ day') : yearOfDay day ≤ yearOfDay day' := by
  have hstart := yearStart_yearOfDay day
  have hle : yearOfDay day ≤ day' / 366 + 1 := by
    have hdiv : day / 366 ≤ day' / 366 := Nat.div_le_div_right h
    rw [yearOfDay]
    split <;> omega
  rw [yearOfDay.eq_def day']
  dsimp only
  split
  · exact hle
  · next hlate =>
    by_contra hlt
    have hmono := yearStart_mono (Nat.succ_le_of_lt (Nat.lt_of_not_le hlt))
    exact hlate (hmono.trans (hstart.trans h))

theorem yearOfDay_lt {day : Nat} (h : day < cycleDays) : yearOfDay day < 400 := by
  have hstart := yearStart_yearOfDay day
  by_contra hlate
  have hmono := yearStart_mono (Nat.le_of_not_lt hlate)
  have hcycle : yearStart 400 = cycleDays := by decide
  omega

theorem monthOfDay_bounds (month day : Nat) (lengths : List Nat) :
    month ≤ (monthOfDay month day lengths).1 ∧
      (monthOfDay month day lengths).1 ≤ month + lengths.length ∧
      (monthOfDay month day lengths).2 ≤ day + 1 := by
  induction lengths generalizing month day with
  | nil => simp [monthOfDay]
  | cons length rest ih =>
    rw [monthOfDay, List.length_cons]
    split
    · simp
    · have := ih (month + 1) (day - length)
      omega

/-- A later day of a year has a later month, or a later day in the same month. -/
theorem monthOfDay_lt {month day day' : Nat} (lengths : List Nat) (h : day < day') :
    (monthOfDay month day lengths).1 < (monthOfDay month day' lengths).1 ∨
      (monthOfDay month day lengths).1 = (monthOfDay month day' lengths).1 ∧
        (monthOfDay month day lengths).2 < (monthOfDay month day' lengths).2 := by
  induction lengths generalizing month day day' with
  | nil => exact .inr ⟨rfl, Nat.succ_lt_succ h⟩
  | cons length rest ih =>
    rw [monthOfDay, monthOfDay]
    split
    · split
      · exact .inr ⟨rfl, Nat.succ_lt_succ h⟩
      · exact .inl (monthOfDay_bounds (month + 1) (day' - length) rest).1
    · rw [if_neg (by omega)]
      exact ih (by omega)

/-- The dates of days are in the order of the days. -/
theorem date_lt {days days' : Int} (h : days < days') :
    (date days).year < (date days').year ∨ (date days).year = (date days').year ∧
      ((date days).month < (date days').month ∨ (date days).month = (date days').month ∧
        (date days).day < (date days').day) := by
  have hcycle : (cycleDays : Int) = 146097 := rfl
  have hyear : yearOfDay ((days + epochDays) % 146097).toNat < 400 :=
    yearOfDay_lt (by rw [cycleDays]; omega)
  simp only [date, hcycle]
  rcases Int.lt_or_le ((days + epochDays) / 146097) ((days' + epochDays) / 146097) with
    cycle | cycle
  · exact .inl (by omega)
  have same : (days + epochDays) / 146097 = (days' + epochDays) / 146097 := by omega
  have later : ((days + epochDays) % 146097).toNat < ((days' + epochDays) % 146097).toNat := by
    omega
  rw [same]
  generalize ((days + epochDays) % 146097).toNat = day at later ⊢
  generalize ((days' + epochDays) % 146097).toNat = day' at later ⊢
  rcases Nat.lt_or_eq_of_le (yearOfDay_mono later.le) with hlt | heq
  · exact .inl (by omega)
  have hstart := yearStart_yearOfDay day
  rw [← heq]
  exact .inr ⟨rfl, monthOfDay_lt _ (by omega)⟩

theorem date_bounds (days : Int) : (date days).month < 100 ∧ (date days).day < 150000 := by
  have hwithin := Int.emod_lt_of_pos (days + epochDays) (by decide : (0 : Int) < cycleDays)
  have hcycle : (cycleDays : Int) = 146097 := rfl
  simp only [date]
  generalize hday : ((days + epochDays) % cycleDays).toNat = day
  generalize yearStart (yearOfDay day) = start
  generalize hlengths : monthLengths _ = lengths
  have hlength : lengths.length = 12 := by
    rw [← hlengths]
    rfl
  have hbounds := monthOfDay_bounds 1 (day - start) lengths
  omega

end Calendar

/-! ### Fields -/

namespace Pattern

open Text

theorem toNat_ofNat {n : Nat} (h : n < 55296) : (Char.ofNat n).toNat = n := by
  rw [Char.ofNat, dif_pos (.inl h)]
  rfl

theorem before_twoPlaces {n m : Nat} {a b : Text} (hn : n < 500000) (hm : m < 500000) :
    Before (twoPlaces .zero n ++ a) (twoPlaces .zero m ++ b) ↔ n < m ∨ n = m ∧ Before a b := by
  have char : ∀ {k l : Nat}, k < 50000 → l < 50000 →
      ((Char.ofNat (48 + k)).toNat < (Char.ofNat (48 + l)).toNat ↔ k < l) ∧
        (Char.ofNat (48 + k) = Char.ofNat (48 + l) ↔ k = l) := by
    intro k l hk hl
    rw [← Char.toNat_inj, toNat_ofNat (by omega), toNat_ofNat (by omega)]
    omega
  obtain ⟨tens_lt, tens_eq⟩ := char (by omega : n / 10 < 50000) (by omega : m / 10 < 50000)
  obtain ⟨ones_lt, ones_eq⟩ := char (by omega : n % 10 < 50000) (by omega : m % 10 < 50000)
  simp only [twoPlaces, List.cons_append, List.nil_append, before_cons, tens_lt, tens_eq, ones_lt,
    ones_eq]
  by_cases rest : Before a b
  · simp only [rest, and_true]
    omega
  · simp only [rest, and_false, or_false]
    omega

/-- Numbers of two places, each behind a sign. -/
def placesText (fields : List (Char × Nat)) : Text :=
  fields.flatMap fun field => field.1 :: twoPlaces .zero field.2

theorem before_placesText_cons {c : Char} {n m : Nat} {fields fields' : List (Char × Nat)}
    (hn : n < 500000) (hm : m < 500000) :
    Before (placesText ((c, n) :: fields)) (placesText ((c, m) :: fields')) ↔
      n < m ∨ n = m ∧ Before (placesText fields) (placesText fields') := by
  rw [placesText, placesText, List.flatMap_cons, List.flatMap_cons, List.cons_append,
    List.cons_append, before_cons, before_twoPlaces hn hm]
  simp [placesText]

/-- A year of four digits is a numeral that is filled up. -/
theorem yearText_eq {year : Int} (h : 0 ≤ year) (h' : year ≤ 9999) :
    yearText .zero year = Digits.zeroed 4 year.toNat := by
  rw [yearText, if_pos ⟨h, by omega⟩, signedText, if_neg (by omega)]
  rw [Digits.zeroed, show year.natAbs = year.toNat by omega]
  rfl

end Pattern

/-! ### Stamps -/

namespace LiveFile

open Pattern Text

/-- The stamp of a second. -/
def stampAt (second : Int) : Text :=
  let date := Calendar.date (second / 86400)
  let time := (second % 86400).toNat
  yearText .zero date.year ++ placesText
    [('-', date.month), ('-', date.day), ('T', time / 3600), (':', time / 60 % 60),
      (':', time % 60)]

theorem format?_stampPattern (t : Timestamp) :
    t.format? stampPattern = some (stampAt t.seconds) := by
  rw [Timestamp.format?, stampItems, Option.map_some, Option.some.injEq]
  simp [stampAt, placesText, itemText, numberText, Timestamp.date, Timestamp.clock]

/-- The year of a second has four digits. -/
def InYears (second : Int) : Prop :=
  0 ≤ (Calendar.date (second / 86400)).year ∧ (Calendar.date (second / 86400)).year ≤ 9999

instance (second : Int) : Decidable (InYears second) :=
  inferInstanceAs (Decidable (_ ∧ _))

variable {second second' : Int}

theorem length_stampAt (h : InYears second) : (stampAt second).length = 19 := by
  rw [stampAt, List.length_append, yearText_eq h.1 h.2,
    Digits.length_zeroed (by decide) (by have := h.2; omega)]
  rfl

/-- A later second has a later stamp. -/
theorem before_stampAt (lt : second < second') (h : InYears second) (h' : InYears second') :
    Before (stampAt second) (stampAt second') := by
  obtain ⟨hyear, hyears⟩ := h
  obtain ⟨hyear', hyears'⟩ := h'
  obtain ⟨hmonth, hday⟩ := Calendar.date_bounds (second / 86400)
  obtain ⟨hmonth', hday'⟩ := Calendar.date_bounds (second' / 86400)
  have hwidth : (Digits.zeroed 4 (Calendar.date (second / 86400)).year.toNat).length
      = (Digits.zeroed 4 (Calendar.date (second' / 86400)).year.toNat).length := by
    rw [Digits.length_zeroed (by decide) (by omega), Digits.length_zeroed (by decide) (by omega)]
  rw [stampAt, stampAt, yearText_eq hyear hyears, yearText_eq hyear' hyears', before_append hwidth]
  simp (disch := omega) only [before_placesText_cons]
  rcases Int.lt_or_le (second / 86400) (second' / 86400) with day | day
  · rcases Calendar.date_lt day with year | ⟨year, month | ⟨month, day⟩⟩
    · exact .inl (Digits.before_zeroed (by decide) (by omega) (by omega))
    · exact .inr ⟨by rw [year], .inl month⟩
    · exact .inr ⟨by rw [year], .inr ⟨month, .inl day⟩⟩
  · -- within one day the time of the day decides
    have same : second / 86400 = second' / 86400 := by omega
    rw [same]
    refine .inr ⟨rfl, .inr ⟨rfl, .inr ⟨rfl, ?_⟩⟩⟩
    have later : (second % 86400).toNat < (second' % 86400).toNat := by omega
    generalize (second % 86400).toNat = time at later ⊢
    generalize (second' % 86400).toNat = time' at later ⊢
    have hfields : time / 3600 < time' / 3600 ∨ time / 3600 = time' / 3600 ∧
        (time / 60 % 60 < time' / 60 % 60 ∨ time / 60 % 60 = time' / 60 % 60 ∧
          time % 60 < time' % 60) := by
      omega
    exact hfields.imp_right fun ⟨hour, rest⟩ => ⟨hour, rest.imp_right fun h => ⟨h.1, .inl h.2⟩⟩

end LiveFile

end Outbox
