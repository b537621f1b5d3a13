import Mathlib.Data.List.Lex
import SqlDraft.Calendar.Moment
import SqlDraft.Proofs.Days
import SqlDraft.Proofs.Outcome

/-!
# Clock readings and instants

A date and a time of day stand for the seconds that have passed since the start of the calendar: whole days,
counted one by one, and the seconds of the last day. With the offset of its clock and its microseconds a moment
denotes an instant of universal time.

* `Clock.Genuine`, `seconds_ofSeconds`, `ofSeconds_seconds`: the times of day, and the seconds of a day.
* `StandsFor`, `standsFor_iff`: which reading stands for which second; every second has exactly one.
* `readingNumbers`, `readingNumbers_lt`: a later second has a later reading, number by number.
* `InYears`, `inYears_iff`: the seconds of the years 1 to 9999.
* `Moment.Denotes`, `Moment.Denotes.instant_eq`: the instant of a moment in microseconds, and its whole seconds.
* `Moment.existsUnique_denotes_of_ofNumbers`: every moment that can be made denotes exactly one.
-/

namespace SqlDraft

/-! ## Times of day -/

namespace Clock

/-- A time of day. -/
structure Genuine (c : Clock) : Prop where
  hour_lt : c.hour < 24
  minute_lt : c.minute < 60
  second_lt : c.second < 60

instance (c : Clock) : Decidable c.Genuine :=
  decidable_of_iff (c.hour < 24 ∧ c.minute < 60 ∧ c.second < 60)
    ⟨fun h => ⟨h.1, h.2.1, h.2.2⟩, fun h => ⟨h.hour_lt, h.minute_lt, h.second_lt⟩⟩

variable {c : Clock}

theorem Genuine.seconds_lt (h : c.Genuine) : c.seconds < daySeconds := by
  have hhour := h.hour_lt
  have hminute := h.minute_lt
  have hsecond := h.second_lt
  unfold seconds daySeconds
  omega

theorem ofSeconds_genuine {n : Nat} (h : n < daySeconds) : (ofSeconds n).Genuine := by
  have hhour : n / 3600 < 24 := by
    unfold daySeconds at h
    omega
  exact ⟨hhour, Nat.mod_lt _ (by decide), Nat.mod_lt _ (by decide)⟩

theorem seconds_ofSeconds (n : Nat) : (ofSeconds n).seconds = n := by
  simp only [ofSeconds, seconds]
  omega

theorem ofSeconds_seconds (h : c.Genuine) : ofSeconds c.seconds = c := by
  have hminute := h.minute_lt
  have hsecond := h.second_lt
  obtain ⟨hour, minute, second⟩ := c
  simp only [ofSeconds, seconds, Clock.mk.injEq] at *
  omega

end Clock

/-! ## Readings -/

/-- The reading of a clock and a calendar stands for `l` seconds from the start of the calendar: its date is
reached from the first one in whole days, and its time of day counts the seconds of the last day. -/
def StandsFor (r : Date × Clock) (l : Int) : Prop :=
  ∃ n : Nat, Date.tomorrow^[n] Date.first = r.1 ∧ r.2.Genuine ∧ l = n * daySeconds + r.2.seconds

variable {r : Date × Clock} {l : Int}

/-- The readings of dates and times of day stand for their seconds, and no others stand for any. -/
theorem standsFor_iff_secondsOf :
    StandsFor r l ↔ r.1.Genuine ∧ r.2.Genuine ∧ l = secondsOf r.1 r.2 := by
  constructor
  · rintro ⟨n, hdate, hclock, rfl⟩
    rw [Date.iterate_tomorrow] at hdate
    refine ⟨hdate ▸ Date.ofDayNumber_genuine n, hclock, ?_⟩
    rw [secondsOf, ← hdate, Date.dayNumber_ofDayNumber]
    push_cast
    rfl
  · rintro ⟨hdate, hclock, rfl⟩
    refine ⟨r.1.dayNumber, ?_, hclock, ?_⟩
    · rw [Date.iterate_tomorrow, Date.ofDayNumber_dayNumber hdate]
    · rw [secondsOf]
      push_cast
      rfl

theorem clockOf_genuine (n : Nat) : (clockOf n).1.Genuine ∧ (clockOf n).2.Genuine :=
  ⟨Date.ofDayNumber_genuine _, Clock.ofSeconds_genuine (Nat.mod_lt _ (by decide))⟩

theorem secondsOf_clockOf (n : Nat) : secondsOf (clockOf n).1 (clockOf n).2 = n := by
  rw [secondsOf, clockOf, Date.dayNumber_ofDayNumber, Clock.seconds_ofSeconds]
  exact Nat.div_add_mod' n daySeconds

theorem clockOf_secondsOf (hdate : r.1.Genuine) (hclock : r.2.Genuine) : clockOf (secondsOf r.1 r.2) = r := by
  have hlt := hclock.seconds_lt
  have hday : secondsOf r.1 r.2 / daySeconds = r.1.dayNumber := by
    unfold secondsOf
    unfold daySeconds at *
    omega
  have hrest : secondsOf r.1 r.2 % daySeconds = r.2.seconds := by
    unfold secondsOf
    unfold daySeconds at *
    omega
  rw [clockOf, hday, hrest, Date.ofDayNumber_dayNumber hdate, Clock.ofSeconds_seconds hclock]

/-- Every second from the start of the calendar on has exactly one reading. -/
theorem standsFor_iff : StandsFor r l ↔ 0 ≤ l ∧ clockOf l.toNat = r := by
  rw [standsFor_iff_secondsOf]
  constructor
  · rintro ⟨hdate, hclock, rfl⟩
    exact ⟨Int.natCast_nonneg _, by rw [Int.toNat_natCast, clockOf_secondsOf hdate hclock]⟩
  · rintro ⟨hl, rfl⟩
    refine ⟨(clockOf_genuine _).1, (clockOf_genuine _).2, ?_⟩
    rw [secondsOf_clockOf, Int.toNat_of_nonneg hl]

theorem StandsFor.unique {q : Date × Clock} (hq : StandsFor q l) (hr : StandsFor r l) : q = r :=
  (standsFor_iff.mp hq).2.symm.trans (standsFor_iff.mp hr).2

/-- The numbers of a reading, the one that counts for the most first. -/
def readingNumbers (r : Date × Clock) : List Nat :=
  [r.1.year, r.1.month, r.1.day, r.2.hour, r.2.minute, r.2.second]

theorem readingNumbers_injective {q r : Date × Clock} (h : readingNumbers q = readingNumbers r) : q = r := by
  obtain ⟨⟨_, _, _⟩, ⟨_, _, _⟩⟩ := q
  obtain ⟨⟨_, _, _⟩, ⟨_, _, _⟩⟩ := r
  simp only [readingNumbers, List.cons.injEq, and_true] at h
  obtain ⟨rfl, rfl, rfl, rfl, rfl, rfl⟩ := h
  rfl

theorem secondsOf_lt {q r : Date × Clock} (hq : q.1.Genuine) (hq' : q.2.Genuine) (hr : r.1.Genuine)
    (h : readingNumbers q < readingNumbers r) : secondsOf q.1 q.2 < secondsOf r.1 r.2 := by
  have hseconds := hq'.seconds_lt
  have hminute := hq'.minute_lt
  have hsecond := hq'.second_lt
  simp only [readingNumbers, List.cons_lt_cons_iff, List.lt_irrefl, and_false, or_false] at h
  rcases Date.before_trichotomy q.1 r.1 with hbefore | hdate | hafter
  · have hday := Date.dayNumber_lt_of_before hq hr hbefore
    unfold secondsOf
    unfold daySeconds at *
    omega
  · simp only [hdate, lt_irrefl, true_and, false_or] at h
    unfold secondsOf Clock.seconds
    rw [hdate]
    omega
  · unfold Date.Before at hafter
    omega

/-- A later second has a later reading, number by number. -/
theorem readingNumbers_lt {q r : Date × Clock} {k l : Int} (hq : StandsFor q k) (hr : StandsFor r l) (h : k < l) :
    readingNumbers q < readingNumbers r := by
  obtain ⟨hqd, hqc, rfl⟩ := standsFor_iff_secondsOf.mp hq
  obtain ⟨hrd, hrc, rfl⟩ := standsFor_iff_secondsOf.mp hr
  rcases lt_trichotomy (readingNumbers q) (readingNumbers r) with hlt | heq | hgt
  · exact hlt
  · rw [readingNumbers_injective heq] at h
    exact absurd h (Int.lt_irrefl _)
  · have := secondsOf_lt hrd hrc hqd hgt
    omega

/-! ## The years of the calendar -/

/-- A second of the years 1 to 9999. -/
def InYears (l : Int) : Prop := ∃ r, StandsFor r l ∧ r.1.year ≤ 9999

theorem inYears_iff (l : Int) : InYears l ↔ inCalendar l = true := by
  have hin : inCalendar l = true ↔ 0 ≤ l ∧ l < calendarEnd := by simp [inCalendar]
  rw [hin]
  constructor
  · rintro ⟨r, hr, hyear⟩
    obtain ⟨hdate, hclock, rfl⟩ := standsFor_iff_secondsOf.mp hr
    have hday : r.1.dayNumber < daysBeforeYear 10000 :=
      Nat.lt_of_lt_of_le hdate.within_year (daysBeforeYear_mono (Nat.add_le_add_right hyear 1))
    have hlt := hclock.seconds_lt
    refine ⟨Int.natCast_nonneg _, ?_⟩
    unfold secondsOf calendarEnd
    unfold daySeconds at *
    omega
  · rintro ⟨hl, hlt⟩
    refine ⟨clockOf l.toNat, standsFor_iff.mpr ⟨hl, rfl⟩, ?_⟩
    show yearOfDay (l.toNat / daySeconds) ≤ 9999
    obtain ⟨-, hfrom, -⟩ := yearOfDay_spec (l.toNat / daySeconds)
    by_contra hyear
    have hmono := daysBeforeYear_mono (by omega : 10000 ≤ yearOfDay (l.toNat / daySeconds))
    unfold calendarEnd at hlt
    unfold daySeconds at *
    omega

/-! ## Moments -/

namespace Moment

/-- The microseconds of a second. -/
def secondMicroseconds : Int := 1000000

/-- A moment denotes the instant `t`, in microseconds of universal time from the start of the calendar: what its
reading stands for less the offset of its clock, zero if that is unknown. -/
def Denotes (m : Moment) (t : Int) : Prop :=
  ∃ l, StandsFor (m.date, m.clock) l ∧ m.microsecond < secondMicroseconds ∧
    t = (l - m.offset.getD 0) * secondMicroseconds + m.microsecond

variable {m : Moment} {t : Int}

theorem Denotes.instant_eq (h : m.Denotes t) : t / secondMicroseconds = m.instant := by
  obtain ⟨l, hl, hmicrosecond, rfl⟩ := h
  obtain ⟨-, -, rfl⟩ := standsFor_iff_secondsOf.mp hl
  simp only [instant, secondMicroseconds] at *
  omega

theorem denotes_instant (hdate : m.date.Genuine) (hclock : m.clock.Genuine)
    (hmicrosecond : m.microsecond < secondMicroseconds)
    (ht : m.instant * secondMicroseconds + m.microsecond = t) : m.Denotes t :=
  ⟨_, standsFor_iff_secondsOf.mpr ⟨hdate, hclock, rfl⟩, hmicrosecond, ht.symm⟩

/-- A moment of a date and a time of day denotes one instant. -/
theorem existsUnique_denotes (hdate : m.date.Genuine) (hclock : m.clock.Genuine)
    (hmicrosecond : m.microsecond < secondMicroseconds) : ∃! t, m.Denotes t := by
  refine ⟨_, denotes_instant hdate hclock hmicrosecond rfl, ?_⟩
  rintro t ⟨l, hl, -, rfl⟩
  obtain ⟨-, -, rfl⟩ := standsFor_iff_secondsOf.mp hl
  rfl

theorem le_of_withinLimits {part : ClockPart} {n : Int} {k : Nat} (h : Date.withinLimits part n = .ok k) :
    part.least ≤ k ∧ k ≤ part.greatest := by
  unfold Date.withinLimits at h
  split at h
  · cases h
    omega
  · cases h

theorem genuine_of_dateOfNumbers {year month day : Int} {d : Date} (h : Date.ofNumbers year month day = .ok d) :
    d.Genuine := by
  unfold Date.ofNumbers at h
  split at h
  · cases h
  · rename_i hyear
    obtain ⟨k, hk, h⟩ := bind_eq_ok_iff.mp h
    obtain ⟨hleast, hgreatest⟩ := le_of_withinLimits hk
    split at h
    · cases h
    · rename_i hday
      cases h
      have hyear : 1 ≤ year.toNat := by omega
      have hfirst : 1 ≤ day.toNat := by omega
      have hlast : day.toNat ≤ Date.monthLength year.toNat k := by omega
      exact ⟨hyear, hleast, hgreatest, hfirst, hlast⟩

/-- The numbers of a moment are those of a date and a time of day, so it denotes one instant. -/
theorem existsUnique_denotes_of_ofNumbers {year month day hour minute second microsecond : Int}
    {offset : Option Int} (h : ofNumbers year month day hour minute second microsecond offset = .ok m) :
    ∃! t, m.Denotes t := by
  simp only [ofNumbers, bind_eq_ok_iff, Except.ok.injEq] at h
  obtain ⟨d, hd, k, hhour, j, hminute, i, hsecond, u, hmicrosecond, rfl⟩ := h
  have hhour : k < 24 := Nat.lt_succ_of_le (le_of_withinLimits hhour).2
  have hminute : j < 60 := Nat.lt_succ_of_le (le_of_withinLimits hminute).2
  have hsecond : i < 60 := Nat.lt_succ_of_le (le_of_withinLimits hsecond).2
  have hmicrosecond : u < 1000000 := Nat.lt_succ_of_le (le_of_withinLimits hmicrosecond).2
  refine existsUnique_denotes (genuine_of_dateOfNumbers hd) ⟨hhour, hminute, hsecond⟩ ?_
  show (u : Int) < 1000000
  omega

end Moment

end SqlDraft
