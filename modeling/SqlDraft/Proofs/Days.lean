import Mathlib.Algebra.BigOperators.Group.List.Basic
import Mathlib.Algebra.GroupWithZero.Nat
import Mathlib.Algebra.Order.Group.Nat
import Mathlib.Logic.Function.Iterate
import Mathlib.Order.Monotone.Basic
import SqlDraft.Calendar.Date

/-!
# Days of the calendar

The calendar goes on day by day from 0001-01-01: to the next day of the month, else to the next month, else to
the next year. The number of a date counts these steps, and the date of a day is where they lead.

* `isLeap_iff`, `yearLength`: which years are longer, and how long years are.
* `daysBeforeYear_succ`, `daysBeforeMonth_succ`: a year and a month start where the one before ends.
* `yearOfDay_spec`, `monthOfDay_spec`: the year of a day, and the month of a day of a year.
* `Date.Genuine`, `Date.Before`: the dates of the calendar, and their order.
* `Date.dayNumber_lt_of_before`, `dayNumber_injective`: numbers of days are in the order of dates.
* `Date.tomorrow`, `dayNumber_tomorrow`: the day after a date, and its number.
* `Date.iterate_tomorrow`: after so many steps from the first date, the date of a day.
-/

namespace SqlDraft

/-! ## Years -/

/-- The days of a year. -/
def yearLength (year : Nat) : Nat := if isLeap year then 366 else 365

/-- Every fourth year is a leap year, of the hundreds only every fourth. -/
theorem isLeap_iff (year : Nat) : isLeap year = true ↔ 4 ∣ year ∧ (100 ∣ year → 400 ∣ year) := by
  simp only [isLeap, Bool.and_eq_true, Bool.or_eq_true, beq_iff_eq, bne_iff_ne]
  omega

theorem daysBeforeYear_succ {year : Nat} (h : 1 ≤ year) :
    daysBeforeYear (year + 1) = daysBeforeYear year + yearLength year := by
  obtain ⟨y, rfl⟩ : ∃ y, year = y + 1 := ⟨year - 1, by omega⟩
  have hle : y / 100 ≤ y := Nat.div_le_self y 100
  unfold daysBeforeYear yearLength
  simp only [Nat.add_sub_cancel, Nat.succ_div, isLeap_iff]
  by_cases h4 : 4 ∣ y + 1
  · by_cases h100 : 100 ∣ y + 1
    · by_cases h400 : 400 ∣ y + 1
      · simp [h4, h100, h400]; omega
      · simp [h4, h100, h400]; omega
    · have h400 : ¬400 ∣ y + 1 := by omega
      simp [h4, h100, h400]; omega
  · have h100 : ¬100 ∣ y + 1 := by omega
    have h400 : ¬400 ∣ y + 1 := by omega
    simp [h4, h100, h400]; omega

theorem daysBeforeYear_mono : Monotone daysBeforeYear := by
  refine monotone_nat_of_le_succ fun year => ?_
  by_cases h : 1 ≤ year
  · rw [daysBeforeYear_succ h]
    exact Nat.le_add_right _ _
  · obtain rfl : year = 0 := by omega
    decide

/-- The year of a day is the one in which it lies. -/
theorem yearOfDay_spec (n : Nat) :
    1 ≤ yearOfDay n ∧ daysBeforeYear (yearOfDay n) ≤ n ∧ n < daysBeforeYear (yearOfDay n + 1) := by
  unfold yearOfDay
  dsimp only
  split
  · rename_i h
    unfold daysBeforeYear at *
    dsimp only at *
    omega
  · split
    · rename_i h h'
      refine ⟨by omega, by omega, h'⟩
    · rename_i h h'
      unfold daysBeforeYear at *
      dsimp only at *
      omega

/-! ## Months -/

theorem length_monthLengths (leap : Bool) : (monthLengths leap).length = 12 := rfl

theorem sum_monthLengths (year : Nat) : (monthLengths (isLeap year)).sum = yearLength year := by
  unfold yearLength
  cases isLeap year <;> rfl

theorem daysBeforeMonth_eq_sum (leap : Bool) (month : Nat) :
    daysBeforeMonth leap month = ((monthLengths leap).take (month - 1)).sum := rfl

theorem daysBeforeMonth_succ (year : Nat) {month : Nat} (h : 1 ≤ month) :
    daysBeforeMonth (isLeap year) (month + 1) =
      daysBeforeMonth (isLeap year) month + Date.monthLength year month := by
  obtain ⟨m, rfl⟩ : ∃ m, month = m + 1 := ⟨month - 1, by omega⟩
  simp only [daysBeforeMonth_eq_sum, Date.monthLength, Nat.add_sub_cancel, List.take_add_one, List.sum_append,
    List.getD_eq_getElem?_getD]
  cases (monthLengths (isLeap year))[m]? <;> rfl

theorem daysBeforeMonth_mono (year : Nat) {m n : Nat} (hm : 1 ≤ m) (h : m ≤ n) :
    daysBeforeMonth (isLeap year) m ≤ daysBeforeMonth (isLeap year) n := by
  induction n, h using Nat.le_induction with
  | base => exact Nat.le_refl _
  | succ n hn ih =>
    rw [daysBeforeMonth_succ year (by omega)]
    omega

theorem daysBeforeMonth_end (year : Nat) : daysBeforeMonth (isLeap year) 13 = yearLength year := by
  rw [← sum_monthLengths, daysBeforeMonth_eq_sum]
  rfl

/-- Going through months finds the one in which a day lies. -/
theorem monthOfDay_spec (ls : List Nat) (month : Nat) {n : Nat} (h : n < ls.sum) :
    ∃ i day, monthOfDay ls month n = (month + i, day + 1) ∧ day < ls.getD i 0 ∧ (ls.take i).sum + day = n := by
  induction ls generalizing month n with
  | nil => cases h
  | cons l ls ih =>
    by_cases hn : n < l
    · exact ⟨0, n, if_pos hn, hn, by simp⟩
    · obtain ⟨i, day, heq, hday, hsum⟩ := ih (month + 1) (n := n - l) (by simp at h; omega)
      refine ⟨i + 1, day, ?_, hday, by simp; omega⟩
      rw [monthOfDay, if_neg hn, heq, Nat.add_assoc, Nat.add_comm 1 i]

namespace Date

/-! ## Dates -/

/-- A date of the calendar: the month is one of the year, and the day one of the month. -/
structure Genuine (d : Date) : Prop where
  one_le_year : 1 ≤ d.year
  one_le_month : 1 ≤ d.month
  month_le : d.month ≤ 12
  one_le_day : 1 ≤ d.day
  day_le : d.day ≤ monthLength d.year d.month

instance (d : Date) : Decidable d.Genuine :=
  decidable_of_iff
    (1 ≤ d.year ∧ 1 ≤ d.month ∧ d.month ≤ 12 ∧ 1 ≤ d.day ∧ d.day ≤ monthLength d.year d.month)
    ⟨fun h => ⟨h.1, h.2.1, h.2.2.1, h.2.2.2.1, h.2.2.2.2⟩,
      fun h => ⟨h.one_le_year, h.one_le_month, h.month_le, h.one_le_day, h.day_le⟩⟩

/-- The first day of the calendar. -/
def first : Date := ⟨1, 1, 1⟩

/-- The day after a date. -/
def tomorrow (d : Date) : Date :=
  if d.day < monthLength d.year d.month then ⟨d.year, d.month, d.day + 1⟩
  else if d.month < 12 then ⟨d.year, d.month + 1, 1⟩
  else ⟨d.year + 1, 1, 1⟩

theorem monthLength_pos (year : Nat) {month : Nat} (h₁ : 1 ≤ month) (h₂ : month ≤ 12) :
    1 ≤ monthLength year month := by
  have hall : ∀ leap : Bool, ∀ m < 12, 1 ≤ (monthLengths leap).getD m 0 := by decide
  exact hall (isLeap year) (month - 1) (by omega)

variable {d e : Date}

/-- A date lies in its month. -/
theorem Genuine.within_month (h : d.Genuine) :
    daysBeforeMonth (isLeap d.year) d.month + d.day ≤ daysBeforeMonth (isLeap d.year) (d.month + 1) := by
  rw [daysBeforeMonth_succ d.year h.one_le_month]
  exact Nat.add_le_add_left h.day_le _

/-- A date lies in its year. -/
theorem Genuine.within_year (h : d.Genuine) : d.dayNumber < daysBeforeYear (d.year + 1) := by
  have hmonth := h.within_month
  have hlast : daysBeforeMonth (isLeap d.year) (d.month + 1) ≤ daysBeforeMonth (isLeap d.year) 13 :=
    daysBeforeMonth_mono d.year (by omega) (Nat.add_le_add_right h.month_le 1)
  rw [daysBeforeMonth_end] at hlast
  have hday := h.one_le_day
  rw [daysBeforeYear_succ h.one_le_year, dayNumber]
  omega

/-- The order of dates: by year, then by month, then by day. -/
def Before (d e : Date) : Prop :=
  d.year < e.year ∨ d.year = e.year ∧ (d.month < e.month ∨ d.month = e.month ∧ d.day < e.day)

theorem dayNumber_lt_of_before (hd : d.Genuine) (he : e.Genuine) (h : d.Before e) :
    d.dayNumber < e.dayNumber := by
  have hde := hd.one_le_day
  have hee := he.one_le_day
  rcases h with hyear | ⟨hyear, hmonth | ⟨hmonth, hday⟩⟩
  · calc d.dayNumber < daysBeforeYear (d.year + 1) := hd.within_year
      _ ≤ daysBeforeYear e.year := daysBeforeYear_mono hyear
      _ ≤ e.dayNumber := by rw [dayNumber]; omega
  · have hwithin := hd.within_month
    have hnext := daysBeforeMonth_mono d.year (by omega : 1 ≤ d.month + 1) hmonth
    simp only [dayNumber, ← hyear]
    omega
  · simp only [dayNumber, ← hyear, ← hmonth]
    omega

theorem before_trichotomy (d e : Date) : d.Before e ∨ d = e ∨ e.Before d := by
  obtain ⟨y, m, n⟩ := d
  obtain ⟨y', m', n'⟩ := e
  simp only [Before, Date.mk.injEq]
  omega

/-- Different dates have different numbers. -/
theorem dayNumber_injective (hd : d.Genuine) (he : e.Genuine) (h : d.dayNumber = e.dayNumber) : d = e := by
  rcases before_trichotomy d e with hlt | heq | hgt
  · have := dayNumber_lt_of_before hd he hlt
    omega
  · exact heq
  · have := dayNumber_lt_of_before he hd hgt
    omega

/-! ## Day by day -/

theorem first_genuine : first.Genuine := by decide

theorem Genuine.tomorrow (h : d.Genuine) : d.tomorrow.Genuine := by
  unfold Date.tomorrow
  split
  · rename_i hday
    exact ⟨h.one_le_year, h.one_le_month, h.month_le, Nat.le_add_left 1 d.day, hday⟩
  · split
    · rename_i hmonth
      exact ⟨h.one_le_year, Nat.le_add_left 1 d.month, hmonth, Nat.le_refl 1,
        monthLength_pos d.year (Nat.le_add_left 1 d.month) hmonth⟩
    · have hmonth : 1 ≤ 12 := by decide
      exact ⟨Nat.le_add_left 1 d.year, Nat.le_refl 1, hmonth, Nat.le_refl 1,
        monthLength_pos (d.year + 1) (Nat.le_refl 1) hmonth⟩

theorem dayNumber_tomorrow (h : d.Genuine) : d.tomorrow.dayNumber = d.dayNumber + 1 := by
  have hfirst := h.one_le_day
  have hlast := h.day_le
  unfold Date.tomorrow
  split
  · simp only [dayNumber]
    omega
  · split
    · simp only [dayNumber, daysBeforeMonth_succ d.year h.one_le_month]
      omega
    · have hmonth : d.month = 12 := by
        have := h.month_le
        omega
      have hyear := daysBeforeYear_succ h.one_le_year
      have hend := daysBeforeMonth_succ d.year (by decide : 1 ≤ 12)
      rw [daysBeforeMonth_end] at hend
      have hstart : daysBeforeMonth (isLeap (d.year + 1)) 1 = 0 := rfl
      simp only [dayNumber, hmonth, hstart] at *
      omega

/-- The date of a day is a date, and its number is the day. -/
theorem ofDayNumber_spec (n : Nat) : (ofDayNumber n).Genuine ∧ (ofDayNumber n).dayNumber = n := by
  obtain ⟨hyear, hfrom, hto⟩ := yearOfDay_spec n
  rw [daysBeforeYear_succ hyear] at hto
  obtain ⟨i, day, heq, hday, hsum⟩ := monthOfDay_spec (monthLengths (isLeap (yearOfDay n))) 1
    (n := n - daysBeforeYear (yearOfDay n)) (by rw [sum_monthLengths]; omega)
  have hdate : ofDayNumber n = ⟨yearOfDay n, 1 + i, day + 1⟩ := by
    simp only [ofDayNumber, heq]
  have hi : i < (monthLengths (isLeap (yearOfDay n))).length := by
    by_contra hle
    rw [List.getD_eq_getElem?_getD, List.getElem?_eq_none (by omega)] at hday
    cases hday
  have hmonth : 1 + i ≤ 12 := by
    rw [length_monthLengths] at hi
    omega
  have hlength : day + 1 ≤ monthLength (yearOfDay n) (1 + i) := by
    rw [monthLength, Nat.add_sub_cancel_left]
    exact hday
  rw [hdate]
  refine ⟨⟨hyear, Nat.le_add_right 1 i, hmonth, Nat.le_add_left 1 day, hlength⟩, ?_⟩
  · simp only [dayNumber, daysBeforeMonth_eq_sum, Nat.add_sub_cancel_left, Nat.add_sub_cancel]
    omega

theorem ofDayNumber_genuine (n : Nat) : (ofDayNumber n).Genuine := (ofDayNumber_spec n).1

@[simp] theorem dayNumber_ofDayNumber (n : Nat) : (ofDayNumber n).dayNumber = n := (ofDayNumber_spec n).2

theorem ofDayNumber_dayNumber (h : d.Genuine) : ofDayNumber d.dayNumber = d :=
  dayNumber_injective (ofDayNumber_genuine _) h (dayNumber_ofDayNumber _)

/-- The date of a day is the one reached from the first by going on day by day. -/
theorem iterate_tomorrow (n : Nat) : tomorrow^[n] first = ofDayNumber n := by
  induction n with
  | zero => exact (ofDayNumber_dayNumber first_genuine).symm
  | succ n ih =>
    rw [Function.iterate_succ_apply', ih]
    refine dayNumber_injective (ofDayNumber_genuine n).tomorrow (ofDayNumber_genuine (n + 1)) ?_
    rw [dayNumber_tomorrow (ofDayNumber_genuine n), dayNumber_ofDayNumber, dayNumber_ofDayNumber]

end Date

end SqlDraft
